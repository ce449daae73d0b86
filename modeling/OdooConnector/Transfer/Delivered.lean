import OdooConnector.Transfer.Export

/-!
# Reported and delivered quantities

The tracking export truncates every move, adds the moves of one external line up in each picking,
and lets squashing drop the pickings whose sum differs from the demand as soon as some sum equals
it. For an order without kits the total that the store receives for a line follows from these
sums alone.
-/

namespace OdooConnector.Transfer

open SaleTransferSerializer

/-- Moves of one external order line. -/
def movesOf (externalCode : String) (moves : List StockMove) : List StockMove :=
  moves.filter fun move =>
    (move.saleLineId.map SaleOrderLine.integrationExternalId) = some externalCode

/-- Sum of the truncated moves of a picking for one external order line. -/
def truncatedQty (externalCode : String) (picking : StockPicking) : ℤ :=
  ((movesOf externalCode picking.moveIds).map fun move => truncate move.quantity).sum

def carries (externalCode : String) (picking : StockPicking) : Bool :=
  !(movesOf externalCode picking.moveIds).isEmpty

/-- Truncated sums of the pickings that move one external order line. -/
def carriedQty (externalCode : String) (self : StockPickings) : List ℤ :=
  (self.records.filter (carries externalCode)).map (truncatedQty externalCode)

/-- Total that an export reports for one external order line. -/
def reportedQty (externalCode : String) (data : List TrackingData) : ℤ :=
  (((data.flatMap fun entry => entry.lines).filter fun line => line.id = externalCode).map
    ExportLine.qty).sum

def StockPickings.NoKits (self : StockPickings) : Prop :=
  ∀ picking ∈ self.records, ∀ move ∈ picking.moveIds, move.bomLineId = false

instance (self : StockPickings) : Decidable self.NoKits :=
  inferInstanceAs (Decidable (∀ picking ∈ self.records, ∀ move ∈ picking.moveIds, _))

/-! ## The line of one picking -/

private theorem foldl_mergeMove (demand total : ℤ) (moves : List StockMove) :
    (moves.map fun move => ({ qtyDemand := demand, qtyDone := truncate move.quantity
                              isKit := false } : MoveData)).foldl
        (fun value move => some (mergeMove move value))
        (some { qtyDemand := demand, qtyDone := total, isKit := false }) =
      some { qtyDemand := demand
             qtyDone := total + (moves.map fun move => truncate move.quantity).sum
             isKit := false } := by
  induction moves generalizing total with
  | nil => simp
  | cons move moves induction =>
      rw [List.map_cons, List.foldl_cons, mergeMove]
      simp only [Bool.false_eq_true, if_false]
      rw [induction, List.map_cons, List.sum_cons, add_assoc]

private theorem moveData_filter {order : SaleOrder} {externalCode : String}
    (known : externalCode ≠ "") {moves : List StockMove}
    (noKits : ∀ move ∈ moves, move.bomLineId = false) :
    (moves.filterMap (moveData order true)).filter (fun entry => entry.1 = externalCode) =
      (movesOf externalCode moves).map fun move =>
        (externalCode, { qtyDemand := order.qtyDemand externalCode
                         qtyDone := truncate move.quantity
                         isKit := false }) := by
  induction moves with
  | nil => rfl
  | cons move moves induction =>
      have rest := induction fun other member => noKits other (List.mem_cons_of_mem move member)
      have notKit : move.bomLineId = false := noKits move List.mem_cons_self
      cases source : move.saleLineId with
      | none => simpa [moveData, movesOf, source] using rest
      | some line =>
          by_cases unknown : line.integrationExternalId = ""
          · have other : line.integrationExternalId ≠ externalCode := unknown ▸ known.symm
            simpa [moveData, movesOf, source, unknown, known.symm] using rest
          · by_cases same : line.integrationExternalId = externalCode
            · simp only [movesOf] at rest
              simp [moveData, movesOf, source, same, known, notKit, rest]
            · simpa [moveData, movesOf, source, unknown, same] using rest

/-- The moves of an external line become one entry with their truncated sum. -/
theorem get?_serializedMoves (order : SaleOrder) {externalCode : String}
    (known : externalCode ≠ "") {picking : StockPicking}
    (noKits : ∀ move ∈ picking.moveIds, move.bomLineId = false) :
    (serializedMoves order true picking).get? externalCode =
      if carries externalCode picking then
        some { qtyDemand := order.qtyDemand externalCode
               qtyDone := truncatedQty externalCode picking
               isKit := false }
      else none := by
  have merged (entries : List (String × MoveData)) (start : Option MoveData) :
      entries.foldl (fun value entry => some (mergeMove entry.2 value)) start =
        (entries.map Prod.snd).foldl (fun value move => some (mergeMove move value)) start := by
    rw [List.foldl_map]
  rw [serializedMoves, Dict.get?_updateAll, moveData_filter known noKits, merged, List.map_map,
    Dict.get?_empty, carries, truncatedQty]
  cases movesOf externalCode picking.moveIds with
  | nil => rfl
  | cons move moves =>
      have sum := foldl_mergeMove (order.qtyDemand externalCode) (truncate move.quantity) moves
      simpa [Function.comp_def, mergeMove] using sum

/-- Line of a picking for an external order line, when it has no kits. -/
def plainLine (order : SaleOrder) (externalCode : String) (picking : StockPicking) :
    PickingLine where
  externalId := externalCode
  qtyDemand := order.qtyDemand externalCode
  qtyDone := truncatedQty externalCode picking
  isKit := false
  multiSerialization := true

private theorem plainLine_isDone (order : SaleOrder) (externalCode : String)
    (picking : StockPicking) :
    (plainLine order externalCode picking).isDone =
      decide (order.qtyDemand externalCode = truncatedQty externalCode picking) := by
  rw [Bool.eq_iff_iff, decide_eq_true_eq]
  rw [eq_comm (a := order.qtyDemand externalCode)]
  exact (beq_iff_eq (α := ℤ)).trans eq_comm

private theorem plainLine_getQty (order : SaleOrder) (externalCode : String)
    (picking : StockPicking) :
    (plainLine order externalCode picking).getQty = truncatedQty externalCode picking := by
  rw [PickingLine.getQty, plainLine]
  rfl

theorem mem_approvedLines_iff (order : SaleOrder) {externalCode : String}
    (known : externalCode ≠ "") {picking : StockPicking}
    (noKits : ∀ move ∈ picking.moveIds, move.bomLineId = false) {line : PickingLine} :
    line ∈ (picking.toExportFormat order true).approvedLines ∧ line.externalId = externalCode ↔
      carries externalCode picking = true ∧ line = plainLine order externalCode picking := by
  have stored := get?_serializedMoves order known noKits
  rw [StockPicking.toExportFormat, PickingSerializer.new,
    mem_approveLines_of_nodup (serializedLines_nodup order true picking), serializedLines]
  simp only [List.mem_map]
  constructor
  · rintro ⟨⟨entry, member, rfl⟩, sameId⟩
    dsimp only at sameId
    have found := (Dict.get?_eq_some_iff _ entry.1 entry.2).mpr member
    rw [sameId, stored] at found
    split at found
    · rename_i moved
      rw [← Option.some.inj found, sameId]
      exact ⟨moved, rfl⟩
    · contradiction
  · rintro ⟨moved, rfl⟩
    rw [if_pos moved] at stored
    exact ⟨⟨_, (Dict.get?_eq_some_iff _ _ _).mp stored, rfl⟩, rfl⟩

theorem filter_approvedLines {order : SaleOrder} {externalCode : String}
    (known : externalCode ≠ "") {picking : StockPicking}
    (noKits : ∀ move ∈ picking.moveIds, move.bomLineId = false) :
    (picking.toExportFormat order true).approvedLines.filter
        (fun line => line.externalId = externalCode) =
      if carries externalCode picking then [plainLine order externalCode picking] else [] := by
  set serializer := picking.toExportFormat order true with serializer_eq
  have members (line : PickingLine) :
      line ∈ serializer.approvedLines.filter (fun line => line.externalId = externalCode) ↔
        carries externalCode picking = true ∧ line = plainLine order externalCode picking := by
    rw [← mem_approvedLines_iff order known noKits, List.mem_filter, decide_eq_true_eq]
  have nodup : (serializer.approvedLines.filter
      (fun line => line.externalId = externalCode)).Nodup :=
    (List.Nodup.of_map _ serializer.approved_nodup).filter _
  split
  · rename_i moved
    refine List.perm_singleton.mp ((List.perm_ext_iff_of_nodup nodup (by simp)).mpr fun line => ?_)
    rw [members]
    simp [moved]
  · rename_i absent
    refine List.eq_nil_iff_forall_not_mem.mpr fun line member => ?_
    exact absent ((members line).mp member).1

/-! ## The total of the dump -/

/-- Quantity of one external order line in a list of lines. -/
def lineQty (externalCode : String) (lines : List PickingLine) : ℤ :=
  ((lines.filter fun line => line.externalId = externalCode).map PickingLine.getQty).sum

theorem reportedQty_eq_sum (externalCode : String) (order : SaleOrder) (self : StockPickings) :
    reportedQty externalCode (self.toExportFormatMulti order) =
      ((self.transfer order).squash.pickings.map fun picking =>
        lineQty externalCode picking.approvedLines).sum := by
  have dumped (pickings : List PickingSerializer) :
      ((((pickings.filter PickingSerializer.approved).map
          PickingSerializer.serialize).flatMap PickingExport.lines).filter
            (fun line => line.id = externalCode)).map ExportLine.qty =
        ((pickings.flatMap PickingSerializer.approvedLines).filter
          (fun line => line.externalId = externalCode)).map PickingLine.getQty := by
    induction pickings with
    | nil => rfl
    | cons picking pickings induction =>
        have own : ((picking.approvedLines.map PickingLine.serialize).filter
            (fun line => line.id = externalCode)).map ExportLine.qty =
            (picking.approvedLines.filter (fun line => line.externalId = externalCode)).map
              PickingLine.getQty := by
          rw [List.filter_map, List.map_map]
          rfl
        rw [List.flatMap_cons, List.filter_append, List.map_append, ← induction, List.filter_cons]
        cases lines : picking.approved with
        | true =>
            rw [if_pos rfl, List.map_cons, List.flatMap_cons, List.filter_append, List.map_append]
            exact congrArg (· ++ _) own
        | false =>
            have empty : picking.approvedLines = [] := by
              simpa [PickingSerializer.approved] using lines
            simp [empty]
  have lines : (self.toExportFormatMulti order).flatMap (fun entry => entry.lines) =
      (self.transfer order).squash.dump.flatMap PickingExport.lines := by
    rw [StockPickings.toExportFormatMulti, List.flatMap_map]
  rw [reportedQty, lines, dump_eq, dumped]
  induction (self.transfer order).squash.pickings with
  | nil => rfl
  | cons picking pickings induction =>
      rw [List.map_cons, List.sum_cons, ← induction, List.flatMap_cons, List.filter_append,
        List.map_append, List.sum_append]
      rfl

/-- Some group of lines holds a done line of an external order line. -/
def someDone (externalCode : String) (groups : List (List PickingLine)) : Bool :=
  groups.any fun lines => lines.any fun line => line.isDone && line.externalId == externalCode

theorem someDone_iff {externalCode : String} {groups : List (List PickingLine)} :
    someDone externalCode groups = true ↔
      ∃ lines ∈ groups, ∃ line ∈ lines, line.isDone = true ∧ line.externalId = externalCode := by
  simp [someDone]

/-- The part of a picking that stays: pending lines leave as soon as some picking is done. -/
def stayingQty (externalCode : String) (done : Bool) (lines : List PickingLine) : ℤ :=
  (((lines.filter fun line => line.externalId = externalCode).filter fun line =>
    line.isDone || !done).map PickingLine.getQty).sum

theorem lineQty_survives {externalCode : String} {pickings : List PickingSerializer}
    (nodup : (pickings.map PickingSerializer.sequence).Nodup) {picking : PickingSerializer}
    (member : picking ∈ pickings)
    (noKits : ∀ line ∈ picking.approvedLines, line.externalId = externalCode →
      line.isKit = false) :
    lineQty externalCode (picking.approvedLines.filter (survives pickings picking.sequence)) =
      stayingQty externalCode
        (someDone externalCode (pickings.map PickingSerializer.approvedLines))
        picking.approvedLines := by
  rw [lineQty, stayingQty, List.filter_filter, List.filter_filter]
  congr 2
  apply List.filter_congr
  intro line held
  by_cases same : line.externalId = externalCode
  · cases done : line.isDone with
    | true => simp [survives, noKits line held same, same, done]
    | false =>
        have elsewhere : heldElsewhere PickingLine.isDone pickings picking.sequence externalCode =
            someDone externalCode (pickings.map PickingSerializer.approvedLines) := by
          rw [Bool.eq_iff_iff, heldElsewhere_iff, someDone_iff]
          constructor
          · rintro ⟨other, otherMember, _, otherLine, otherHeld, otherDone, sameId⟩
            exact ⟨other.approvedLines, List.mem_map_of_mem otherMember, otherLine, otherHeld,
              otherDone, sameId⟩
          · rintro ⟨_, listed, otherLine, otherHeld, otherDone, sameId⟩
            obtain ⟨other, otherMember, rfl⟩ := List.mem_map.mp listed
            refine ⟨other, otherMember, ?_, otherLine, otherHeld, otherDone, sameId⟩
            intro here
            obtain rfl := eq_of_sequence nodup otherMember member here
            obtain rfl := PickingSerializer.line_unique otherHeld held (sameId.trans same.symm)
            rw [done] at otherDone
            contradiction
        simp [survives, noKits line held same, same, done, elsewhere]
  · simp [same]

theorem stayingQty_record {order : SaleOrder} {externalCode : String} (known : externalCode ≠ "")
    {picking : StockPicking} (noKits : ∀ move ∈ picking.moveIds, move.bomLineId = false)
    (done : Bool) :
    stayingQty externalCode done (picking.toExportFormat order true).approvedLines =
      if carries externalCode picking = true ∧
          (order.qtyDemand externalCode = truncatedQty externalCode picking ∨ done = false) then
        truncatedQty externalCode picking
      else 0 := by
  rw [stayingQty, filter_approvedLines known noKits]
  cases carries externalCode picking with
  | false => simp
  | true =>
      simp only [if_true, true_and, List.filter_singleton, plainLine_isDone]
      have tested : (decide (order.qtyDemand externalCode = truncatedQty externalCode picking) ||
          !done) = decide (order.qtyDemand externalCode = truncatedQty externalCode picking ∨
            done = false) := by
        cases done <;> simp
      rw [tested]
      by_cases stays : order.qtyDemand externalCode = truncatedQty externalCode picking ∨
          done = false
      · rw [decide_eq_true stays, if_pos stays, cond_true, List.map_singleton, List.sum_singleton,
          plainLine_getQty]
      · rw [decide_eq_false stays, if_neg stays, cond_false, List.map_nil, List.sum_nil]

/-- Some picking is done with the line exactly when its truncated sum is the demand. -/
theorem someDone_records {order : SaleOrder} {externalCode : String} (known : externalCode ≠ "")
    {self : StockPickings} (noKits : self.NoKits) :
    someDone externalCode
        (self.records.map fun picking => (picking.toExportFormat order true).approvedLines) = true ↔
      order.qtyDemand externalCode ∈ carriedQty externalCode self := by
  simp only [someDone_iff, List.mem_map, exists_exists_and_eq_and, carriedQty, List.mem_filter]
  constructor
  · rintro ⟨picking, member, line, held, done, sameId⟩
    obtain ⟨moved, rfl⟩ :=
      (mem_approvedLines_iff order known (noKits picking member)).mp ⟨held, sameId⟩
    rw [plainLine_isDone, decide_eq_true_eq] at done
    exact ⟨picking, ⟨member, moved⟩, done.symm⟩
  · rintro ⟨picking, ⟨member, moved⟩, same⟩
    obtain ⟨held, sameId⟩ :=
      (mem_approvedLines_iff order known (noKits picking member)).mpr ⟨moved, rfl⟩
    refine ⟨picking, member, _, held, ?_, sameId⟩
    rw [plainLine_isDone, decide_eq_true_eq]
    exact same.symm

private theorem transfer_approvedLines (order : SaleOrder) (self : StockPickings) :
    ((self.transfer order).pickings.map PickingSerializer.approvedLines).Perm
      (self.records.map fun picking => (picking.toExportFormat order true).approvedLines) := by
  have listed := initialSetup_map_perm PickingSerializer.approvedLines (fun _ _ => rfl)
    (self.records.map (StockPicking.toExportFormat order true))
  rw [List.map_map] at listed
  exact listed

private theorem transfer_noKits {order : SaleOrder} {externalCode : String}
    (known : externalCode ≠ "") {self : StockPickings} (noKits : self.NoKits)
    {picking : PickingSerializer} (member : picking ∈ (self.transfer order).pickings)
    {line : PickingLine} (held : line ∈ picking.approvedLines)
    (sameId : line.externalId = externalCode) : line.isKit = false := by
  have listed := (transfer_approvedLines order self).mem_iff.mp (List.mem_map_of_mem member)
  obtain ⟨record, recordMember, approved⟩ := List.mem_map.mp listed
  have recordHeld : line ∈ (record.toExportFormat order true).approvedLines := by
    rw [← approved] at held
    exact held
  have own :=
    (mem_approvedLines_iff order known (noKits record recordMember)).mp ⟨recordHeld, sameId⟩
  rw [own.2]
  rfl

/-- Squashing keeps of each picking what `stayingQty` says. -/
private theorem squash_lineQty {order : SaleOrder} {externalCode : String}
    (known : externalCode ≠ "") {self : StockPickings} (noKits : self.NoKits) :
    (self.transfer order).squash.pickings.map (fun picking =>
        lineQty externalCode picking.approvedLines) =
      ((self.transfer order).pickings.map PickingSerializer.approvedLines).map
        (stayingQty externalCode
          (decide (order.qtyDemand externalCode ∈ carriedQty externalCode self))) := by
  have sameDone : someDone externalCode
      ((self.transfer order).pickings.map PickingSerializer.approvedLines) =
      decide (order.qtyDemand externalCode ∈ carriedQty externalCode self) := by
    rw [Bool.eq_iff_iff, decide_eq_true_eq, ← someDone_records known noKits, someDone_iff,
      someDone_iff]
    refine exists_congr fun lines => and_congr_left fun _ => ?_
    exact (transfer_approvedLines order self).mem_iff
  have dumped := congrArg (List.map fun entry => lineQty externalCode entry.2)
    (self.squash_dump_eq order)
  rw [List.map_map, List.map_map] at dumped
  rw [List.map_map]
  refine dumped.trans (List.map_congr_left fun picking member => ?_)
  rw [← sameDone]
  exact lineQty_survives (self.transfer order).sequence_nodup member
    fun _ held sameId => transfer_noKits known noKits member held sameId

private theorem sum_carried {externalCode : String} {stay : StockPicking → ℤ} {adjust : ℤ → ℤ}
    {pickings : List StockPicking}
    (each : ∀ picking ∈ pickings, stay picking =
      if carries externalCode picking = true then adjust (truncatedQty externalCode picking)
      else 0) :
    (pickings.map stay).sum =
      (((pickings.filter (carries externalCode)).map (truncatedQty externalCode)).map
        adjust).sum := by
  induction pickings with
  | nil => rfl
  | cons picking pickings induction =>
      have rest := induction fun other member => each other (List.mem_cons_of_mem picking member)
      rw [List.map_cons, List.sum_cons, rest, each picking List.mem_cons_self, List.filter_cons]
      split
      · rw [List.map_cons, List.map_cons, List.sum_cons]
      · rw [zero_add]

/-- The reported total, from the truncated sums of the pickings. -/
theorem reportedQty_eq {order : SaleOrder} {externalCode : String} (known : externalCode ≠ "")
    {self : StockPickings} (noKits : self.NoKits) :
    reportedQty externalCode (self.toExportFormatMulti order) =
      ((carriedQty externalCode self).map fun qty =>
        if qty = order.qtyDemand externalCode ∨
            order.qtyDemand externalCode ∉ carriedQty externalCode self then qty else 0).sum := by
  rw [reportedQty_eq_sum, squash_lineQty known noKits,
    ((transfer_approvedLines order self).map _).sum_eq, List.map_map]
  apply sum_carried
  intro picking member
  rw [Function.comp_apply, stayingQty_record known (noKits picking member)]
  simp only [decide_eq_false_iff_not, ite_and, eq_comm (a := order.qtyDemand externalCode)]

/-! ## When the report is right -/

/-- Either the truncated sums add up to the demand and none equals it alone, or exactly one picking
carries the whole demand; an empty demand may be carried by any number of pickings. -/
def DeliveredOnce (demand : ℤ) (carried : List ℤ) : Prop :=
  if demand ∈ carried then demand = 0 ∨ carried.count demand = 1 else carried.sum = demand

instance (demand : ℤ) (carried : List ℤ) : Decidable (DeliveredOnce demand carried) :=
  inferInstanceAs (Decidable (ite _ _ _))

private theorem sum_equal (demand : ℤ) (carried : List ℤ) :
    (carried.map fun qty => if qty = demand then qty else 0).sum =
      carried.count demand * demand := by
  induction carried with
  | nil => simp
  | cons qty carried induction =>
      rw [List.map_cons, List.sum_cons, induction, List.count_cons]
      by_cases same : qty = demand
      · simp [same]
        ring
      · simp [same]

theorem staying_sum_eq_iff (demand : ℤ) (carried : List ℤ) :
    (carried.map fun qty => if qty = demand ∨ demand ∉ carried then qty else 0).sum = demand ↔
      DeliveredOnce demand carried := by
  rw [DeliveredOnce]
  split
  · rename_i present
    simp only [present, not_true_eq_false, or_false, sum_equal]
    constructor
    · intro total
      by_cases empty : demand = 0
      · exact Or.inl empty
      · have factor : ((carried.count demand : ℤ) - 1) * demand = 0 := by linarith
        rcases mul_eq_zero.mp factor with once | none
        · exact Or.inr (by omega)
        · exact absurd none empty
    · rintro (rfl | once)
      · simp
      · rw [once]
        simp
  · rename_i absent
    simp [absent]

/-- Total moved by a list of moves for one external order line. -/
def movedQty (externalCode : String) (moves : List StockMove) : ℚ :=
  ((movesOf externalCode moves).map StockMove.quantity).sum

/-- The delivered quantity of an external line: what the exported pickings moved, less the
returns. -/
def netQty (externalCode : String) (self : StockPickings) (returns : List StockMove) : ℚ :=
  movedQty externalCode (self.records.flatMap StockPicking.moveIds) -
    movedQty externalCode returns

/-- All deliveries of an external line are among the exported pickings. -/
def DeliveryContained (externalCode : String) (order : SaleOrder) (self : StockPickings)
    (returns : List StockMove) : Prop :=
  ((order.relatedOrderLines externalCode).map SaleOrderLine.qtyDelivered).sum =
    netQty externalCode self returns

instance (externalCode : String) (order : SaleOrder) (self : StockPickings)
    (returns : List StockMove) : Decidable (DeliveryContained externalCode order self returns) :=
  inferInstanceAs (Decidable (_ = _))

/-- The report of an external line is its rounded net delivery exactly when the truncated sums of
the exported pickings deliver this number once. -/
theorem reportedQty_eq_delivered_iff {order : SaleOrder} {externalCode : String}
    {self : StockPickings} {returns : List StockMove} (known : externalCode ≠ "")
    (noKits : self.NoKits) (contained : DeliveryContained externalCode order self returns) :
    reportedQty externalCode (self.toExportFormatMulti order) =
        roundHalfEven
          ((order.relatedOrderLines externalCode).map SaleOrderLine.qtyDelivered).sum ↔
      DeliveredOnce (roundHalfEven (netQty externalCode self returns))
        (carriedQty externalCode self) := by
  have demand : order.qtyDemand externalCode =
      roundHalfEven (netQty externalCode self returns) := by
    rw [SaleOrder.qtyDemand, contained]
  rw [reportedQty_eq known noKits, contained, ← demand]
  exact staying_sum_eq_iff _ _

/-! ## Concrete deliveries -/

/-- One order line of the store, delivered in the given quantity. -/
def singleLineOrder (qtyDelivered : ℚ) : SaleOrder where
  orderLine := [{ integrationExternalId := "line", qtyDelivered, productUomQty := qtyDelivered }]

def singleLineMove (quantity : ℚ) : StockMove where
  saleLineId := some
    { integrationExternalId := "line", qtyDelivered := quantity, productUomQty := quantity }
  quantity := quantity
  bomLineId := false

/-- Done outgoing pickings with the given moves, numbered from one. -/
def singleLinePickings (moves : List (List ℚ)) : StockPickings where
  records := moves.zipIdx.map fun entry =>
    { id := entry.2 + 1, name := "WH/OUT", moveIds := entry.1.map singleLineMove
      carrierId := none, backorderId := none, isDropship := false, carrierTrackingRef := ""
      carrierTrackingUrl := "", externalLocation := none }
  id_nodup := by
    rw [List.map_map]
    have numbers : ((moves.zipIdx.map Prod.snd).map Nat.succ).Nodup := by
      rw [List.zipIdx_map_snd]
      exact List.Nodup.map Nat.succ_injective (List.nodup_range' 1)
    rwa [List.map_map] at numbers

/-- Two moves of one and a half are reported as two instead of three, and a delivery that is
returned and repeated is reported twice. -/
theorem reportedQty_differs_from_delivered :
    ((singleLinePickings [[3 / 2, 3 / 2]]).NoKits ∧
      DeliveryContained "line" (singleLineOrder 3) (singleLinePickings [[3 / 2, 3 / 2]]) [] ∧
      (singleLineOrder 3).qtyDemand "line" = 3 ∧
      reportedQty "line"
        ((singleLinePickings [[3 / 2, 3 / 2]]).toExportFormatMulti (singleLineOrder 3)) = 2) ∧
    (singleLinePickings [[5], [5]]).NoKits ∧
      DeliveryContained "line" (singleLineOrder 5) (singleLinePickings [[5], [5]])
        [singleLineMove 5] ∧
      (singleLineOrder 5).qtyDemand "line" = 5 ∧
      reportedQty "line"
        ((singleLinePickings [[5], [5]]).toExportFormatMulti (singleLineOrder 5)) = 10 := by
  decide +kernel

/-- A delivery in two parts is reported in full. -/
theorem reportedQty_eq_delivered_two_parts :
    reportedQty "line" ((singleLinePickings [[2], [3]]).toExportFormatMulti (singleLineOrder 5)) =
        roundHalfEven
          (((singleLineOrder 5).relatedOrderLines "line").map SaleOrderLine.qtyDelivered).sum ↔
      DeliveredOnce (roundHalfEven (netQty "line" (singleLinePickings [[2], [3]]) []))
        (carriedQty "line" (singleLinePickings [[2], [3]])) :=
  reportedQty_eq_delivered_iff (by decide) (by decide +kernel) (by decide +kernel)

end OdooConnector.Transfer
