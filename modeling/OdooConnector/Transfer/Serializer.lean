import OdooConnector.Library.Dict
import OdooConnector.Library.Joining
import Mathlib.Data.Finset.Basic
import Mathlib.Data.Finset.Lattice.Lemmas
import Mathlib.Data.List.Sort

/-!
# Picking serializers

Deliveries are reported to a store through one serializer for each picking. A serializer keeps
one approved line for each external order line; `SaleTransferSerializer` numbers the serializers,
removes lines that several pickings report, and hands the tracking of an emptied picking to
another one.
-/

namespace OdooConnector.Transfer

/-- One serialized stock move. -/
structure PickingLine where
  externalId : String
  qtyDemand : ℤ
  qtyDone : ℤ
  isKit : Bool
  multiSerialization : Bool
  deriving DecidableEq

namespace PickingLine

/-- A kit component of the tracking export reports the quantity of its parent. -/
def getQty (line : PickingLine) : ℤ :=
  if line.isKit && line.multiSerialization then line.qtyDemand else line.qtyDone

def isDone (line : PickingLine) : Bool :=
  line.qtyDemand == line.getQty

end PickingLine

/-- Header values of a serialized picking; an absent tracking reference is the empty string. -/
structure PickingData where
  erpId : ℕ
  name : String
  carrier : String
  carrierCode : String
  isBackorder : Bool
  isDropship : Bool
  tracking : String
  deriving DecidableEq

/-- Line of a dumped picking. -/
structure ExportLine where
  id : String
  qty : ℤ
  deriving DecidableEq

/-- Dumped picking. -/
structure PickingExport where
  name : String
  carrier : String
  carrierCode : String
  tracking : String
  pickingId : ℕ
  lines : List ExportLine
  deriving DecidableEq

def PickingLine.serialize (line : PickingLine) : ExportLine :=
  { id := line.externalId, qty := line.getQty }

/-- A serialized picking holds at most one approved line for each external id. -/
structure PickingSerializer where
  data : PickingData
  lines : List PickingLine
  sequence : ℕ
  approvedLines : List PickingLine
  approved_nodup : (approvedLines.map PickingLine.externalId).Nodup
  deriving DecidableEq

/-- The last of the moves with one external id after sorting them by quantity. -/
def highestLine (lines : List PickingLine) : Option PickingLine :=
  (lines.insertionSort fun left right => left.getQty ≤ right.getQty).getLast?

/-- The line with the highest quantity of each external id. -/
def approveLines (lines : List PickingLine) : List PickingLine :=
  (Dict.groupBy PickingLine.externalId lines).entries.filterMap fun entry => highestLine entry.2

theorem highestLine_isSome {lines : List PickingLine} (nonempty : lines ≠ []) :
    ∃ line, highestLine lines = some line := by
  rw [highestLine, ← Option.isSome_iff_exists, List.getLast?_isSome]
  intro empty
  have lengths := congrArg List.length empty
  exact nonempty (by simpa using lengths)

theorem highestLine_mem {lines : List PickingLine} {line : PickingLine}
    (highest : highestLine lines = some line) : line ∈ lines :=
  (List.mem_insertionSort _).mp (List.mem_of_getLast? highest)

private theorem filterMap_highestLine_ids {entries : List (String × List PickingLine)}
    (groups : ∀ entry ∈ entries,
      entry.2 ≠ [] ∧ ∀ line ∈ entry.2, line.externalId = entry.1) :
    (entries.filterMap fun entry => highestLine entry.2).map PickingLine.externalId =
      entries.map Prod.fst := by
  induction entries with
  | nil => rfl
  | cons entry entries induction =>
      obtain ⟨nonempty, sameId⟩ := groups entry List.mem_cons_self
      obtain ⟨line, highest⟩ := highestLine_isSome nonempty
      rw [List.filterMap_cons, highest, List.map_cons, List.map_cons,
        sameId line (highestLine_mem highest),
        induction fun other member => groups other (List.mem_cons_of_mem entry member)]

/-- The approved lines carry each external id of the moves once, in order of appearance. -/
theorem approveLines_ids (lines : List PickingLine) :
    (approveLines lines).map PickingLine.externalId =
      (Dict.groupBy PickingLine.externalId lines).keys := by
  apply filterMap_highestLine_ids
  intro entry member
  obtain ⟨nonempty, group⟩ := Dict.mem_groupBy_entries member
  refine ⟨nonempty, fun line lineMember => ?_⟩
  rw [group] at lineMember
  simpa using List.of_mem_filter lineMember

theorem mem_approveLines_ids (lines : List PickingLine) (id : String) :
    id ∈ (approveLines lines).map PickingLine.externalId ↔
      id ∈ lines.map PickingLine.externalId := by
  rw [approveLines_ids, Dict.groupBy, Dict.mem_keys_updateAll, List.mem_map]
  simp [Dict.keys, Dict.empty, EmptyCollection.emptyCollection]

theorem approveLines_subset (lines : List PickingLine) : approveLines lines ⊆ lines := by
  intro line member
  obtain ⟨entry, entryMember, highest⟩ := List.mem_filterMap.mp member
  have inGroup := highestLine_mem highest
  rw [(Dict.mem_groupBy_entries entryMember).2] at inGroup
  exact List.mem_of_mem_filter inGroup

namespace PickingSerializer

/-- Serializer of a picking, before it is numbered. -/
def new (data : PickingData) (lines : List PickingLine) : PickingSerializer where
  data := data
  lines := lines
  sequence := 0
  approvedLines := approveLines lines
  approved_nodup := by
    rw [approveLines_ids]
    exact (Dict.groupBy PickingLine.externalId lines).keys_nodup

def approved (picking : PickingSerializer) : Bool :=
  !picking.approvedLines.isEmpty

/-- External ids of the approved lines. -/
def ids (picking : PickingSerializer) : Finset String :=
  (picking.approvedLines.map PickingLine.externalId).toFinset

def kitIds (picking : PickingSerializer) : Finset String :=
  ((picking.approvedLines.filter PickingLine.isKit).map PickingLine.externalId).toFinset

def doneIds (picking : PickingSerializer) : Finset String :=
  ((picking.approvedLines.filter PickingLine.isDone).map PickingLine.externalId).toFinset

def pendingIds (picking : PickingSerializer) : Finset String :=
  ((picking.approvedLines.filter fun line => !line.isDone).map PickingLine.externalId).toFinset

def serialize (picking : PickingSerializer) : PickingExport where
  name := picking.data.name
  carrier := picking.data.carrier
  carrierCode := picking.data.carrierCode
  tracking := picking.data.tracking
  pickingId := picking.data.erpId
  lines := picking.approvedLines.map PickingLine.serialize

/-- Append a tracking reference; empty references leave no separator behind. -/
def extendTracking (extTracking : String) (picking : PickingSerializer) : PickingSerializer :=
  { picking with data.tracking := joinNonempty ", " [picking.data.tracking, extTracking] }

def dropLines (ids : Finset String) (picking : PickingSerializer) : PickingSerializer :=
  { picking with
    approvedLines := picking.approvedLines.filter fun line => line.externalId ∉ ids
    approved_nodup := (List.Sublist.map _ List.filter_sublist).nodup picking.approved_nodup }

@[simp]
theorem extendTracking_sequence (tracking : String) (picking : PickingSerializer) :
    (extendTracking tracking picking).sequence = picking.sequence := rfl

@[simp]
theorem dropLines_sequence (ids : Finset String) (picking : PickingSerializer) :
    (dropLines ids picking).sequence = picking.sequence := rfl

/-- Replace the picking with a sequence number; the others stay as they are. -/
def updateAt (sequence : ℕ) (change : PickingSerializer → PickingSerializer)
    (pickings : List PickingSerializer) : List PickingSerializer :=
  pickings.map fun picking => if picking.sequence = sequence then change picking else picking

end PickingSerializer

open PickingSerializer

/-- Serializers of one order, which are told apart by their sequence numbers. -/
@[ext]
structure SaleTransferSerializer where
  pickings : List PickingSerializer
  sequence_nodup : (pickings.map sequence).Nodup
  deriving DecidableEq

namespace SaleTransferSerializer

def sortByErpId (pickings : List PickingSerializer) : List PickingSerializer :=
  pickings.insertionSort fun left right => left.data.erpId ≤ right.data.erpId

def transfers (pickings : List PickingSerializer) : List PickingSerializer :=
  sortByErpId (pickings.reverse.filter fun picking =>
    !picking.data.isDropship && !picking.data.isBackorder)

def backorders (pickings : List PickingSerializer) : List PickingSerializer :=
  sortByErpId (pickings.reverse.filter fun picking =>
    picking.data.isBackorder && !picking.data.isDropship)

def dropships (pickings : List PickingSerializer) : List PickingSerializer :=
  sortByErpId (pickings.reverse.filter fun picking =>
    picking.data.isDropship && !picking.data.isBackorder)

def mixed (pickings : List PickingSerializer) : List PickingSerializer :=
  sortByErpId (pickings.reverse.filter fun picking =>
    picking.data.isDropship && picking.data.isBackorder)

/-- Pickings in the order of their kind, each kind sorted by database id. -/
def pickingOrder (pickings : List PickingSerializer) : List PickingSerializer :=
  transfers pickings ++ backorders pickings ++ dropships pickings ++ mixed pickings

/-- Number the ordered pickings from one. -/
def initialSetup (pickings : List PickingSerializer) : List PickingSerializer :=
  ((pickingOrder pickings).zipIdx 1).map fun numbered =>
    { numbered.1 with sequence := numbered.2 }

theorem initialSetup_sequence (pickings : List PickingSerializer) :
    (initialSetup pickings).map sequence = List.range' 1 (pickingOrder pickings).length := by
  rw [initialSetup, List.map_map, ← List.zipIdx_map_snd 1 (pickingOrder pickings)]
  rfl

/-- Every picking is of exactly one of the four kinds. -/
theorem pickingOrder_perm (pickings : List PickingSerializer) :
    (pickingOrder pickings).Perm pickings := by
  apply List.perm_iff_count.mpr
  intro picking
  have kinds (kind : PickingSerializer → Bool) :
      (sortByErpId (pickings.reverse.filter kind)).count picking =
        if kind picking then pickings.count picking else 0 := by
    rw [sortByErpId, (List.perm_insertionSort _ _).count_eq, List.filter_reverse,
      List.count_reverse]
    split
    · rename_i selected
      exact List.count_filter selected
    · rename_i rejected
      exact List.count_eq_zero.mpr fun member => rejected (List.of_mem_filter member)
  simp only [pickingOrder, List.count_append, transfers, backorders, dropships, mixed, kinds]
  cases picking.data.isDropship <;> cases picking.data.isBackorder <;> simp

/-- Sorting and numbering change nothing but the sequence numbers. -/
theorem initialSetup_map_perm {β : Type*} (view : PickingSerializer → β)
    (unnumbered : ∀ picking number, view { picking with sequence := number } = view picking)
    (pickings : List PickingSerializer) :
    ((initialSetup pickings).map view).Perm (pickings.map view) := by
  have ordered : (initialSetup pickings).map view = (pickingOrder pickings).map view := by
    rw [initialSetup, List.map_map]
    conv_rhs => rw [← List.zipIdx_map_fst 1 (pickingOrder pickings), List.map_map]
    apply List.map_congr_left
    intro numbered _
    exact unnumbered numbered.1 numbered.2
  rw [ordered]
  exact (pickingOrder_perm pickings).map view

def new (pickings : List PickingSerializer) : SaleTransferSerializer where
  pickings := initialSetup pickings
  sequence_nodup := by
    rw [initialSetup_sequence]
    exact List.nodup_range'

/-- The other pickings in their numbered order. -/
def getRest (pickings : List PickingSerializer) (sequence : ℕ) : List PickingSerializer :=
  (pickings.reverse.filter fun picking => picking.sequence ≠ sequence).insertionSort
    fun left right => left.sequence ≤ right.sequence

/-- Union of a set of ids over several pickings. -/
def unionIds (idsOf : PickingSerializer → Finset String) (pickings : List PickingSerializer) :
    Finset String :=
  pickings.foldr (fun picking ids => idsOf picking ∪ ids) ∅

/-- Drop the kit lines of one picking that another picking holds as a kit, too. -/
def dropDuplicatedKitLines (pickings : List PickingSerializer) (sequence : ℕ) :
    List PickingSerializer :=
  let rest := getRest pickings sequence
  updateAt sequence (fun picking => picking.dropLines (picking.kitIds ∩ unionIds kitIds rest))
    pickings

/-- Drop the pending lines of one picking that are done in another picking. -/
def dropDuplicatedDoneLines (pickings : List PickingSerializer) (sequence : ℕ) :
    List PickingSerializer :=
  let rest := getRest pickings sequence
  updateAt sequence (fun picking => picking.dropLines (picking.pendingIds ∩ unionIds doneIds rest))
    pickings

/-- Hand a tracking reference to the first picking that still has lines. -/
def reassignTracking (pickings : List PickingSerializer) (tracking : String) :
    List PickingSerializer :=
  match (pickings.reverse.filter approved).getLast? with
  | some receiver => updateAt receiver.sequence (extendTracking tracking) pickings
  | none => pickings

/-- Body of the squash loop for the picking with one sequence number. -/
def squashOne (pickings : List PickingSerializer) (sequence : ℕ) : List PickingSerializer :=
  let dropped := dropDuplicatedDoneLines (dropDuplicatedKitLines pickings sequence) sequence
  match dropped.find? fun picking => picking.sequence = sequence with
  | some picking =>
      if picking.approved then dropped else reassignTracking dropped picking.data.tracking
  | none => dropped

/-- The pickings are visited from the last to the first. -/
def squashPickings (pickings : List PickingSerializer) : List PickingSerializer :=
  (pickings.reverse.map sequence).foldl squashOne pickings

theorem updateAt_sequence (sequence : ℕ) (change : PickingSerializer → PickingSerializer)
    (keeps : ∀ picking, (change picking).sequence = picking.sequence)
    (pickings : List PickingSerializer) :
    (updateAt sequence change pickings).map PickingSerializer.sequence =
      pickings.map PickingSerializer.sequence := by
  rw [updateAt, List.map_map]
  apply List.map_congr_left
  intro picking _
  simp only [Function.comp_apply]
  split
  · exact keeps picking
  · rfl

theorem reassignTracking_sequence (pickings : List PickingSerializer) (tracking : String) :
    (reassignTracking pickings tracking).map sequence = pickings.map sequence := by
  rw [reassignTracking]
  split
  · exact updateAt_sequence _ _ (extendTracking_sequence tracking) pickings
  · rfl

theorem squashOne_sequence (pickings : List PickingSerializer) (number : ℕ) :
    (squashOne pickings number).map sequence = pickings.map sequence := by
  have dropped : (dropDuplicatedDoneLines (dropDuplicatedKitLines pickings number) number).map
      sequence = pickings.map sequence := by
    rw [dropDuplicatedDoneLines, updateAt_sequence _ _ fun _ => dropLines_sequence _ _,
      dropDuplicatedKitLines, updateAt_sequence _ _ fun _ => dropLines_sequence _ _]
  rw [squashOne]
  split
  · split
    · exact dropped
    · rw [reassignTracking_sequence, dropped]
  · exact dropped

theorem foldl_squashOne_sequence (numbers : List ℕ) (pickings : List PickingSerializer) :
    (numbers.foldl squashOne pickings).map sequence = pickings.map sequence := by
  induction numbers generalizing pickings with
  | nil => rfl
  | cons number numbers induction =>
      rw [List.foldl_cons, induction, squashOne_sequence]

def squash (transfer : SaleTransferSerializer) : SaleTransferSerializer where
  pickings := squashPickings transfer.pickings
  sequence_nodup := by
    rw [squashPickings, foldl_squashOne_sequence]
    exact transfer.sequence_nodup

def dump (transfer : SaleTransferSerializer) : List PickingExport :=
  ((transfer.pickings.reverse.filter approved).map serialize).reverse

theorem dump_eq (transfer : SaleTransferSerializer) :
    transfer.dump = (transfer.pickings.filter approved).map serialize := by
  rw [dump, List.filter_reverse, List.map_reverse, List.reverse_reverse]

end SaleTransferSerializer
end OdooConnector.Transfer
