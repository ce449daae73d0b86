import OdooConnector.Library.Fold
import OdooConnector.Transfer.Serializer

/-!
# What squashing drops

One pass of the squash loop drops exactly the redundant lines of the visited picking: the kit
lines that another picking holds as a kit, and the pending lines that another picking has done. A
dropped line always leaves a line with the same external id behind, so no external id is lost, and
a visited picking stays free of redundant lines because later passes only remove lines.
-/

namespace OdooConnector.Transfer

open PickingSerializer SaleTransferSerializer

namespace PickingSerializer

theorem mem_kitIds {picking : PickingSerializer} {id : String} :
    id ∈ picking.kitIds ↔
      ∃ line ∈ picking.approvedLines, line.isKit = true ∧ line.externalId = id := by
  simp [kitIds, and_assoc]

theorem mem_doneIds {picking : PickingSerializer} {id : String} :
    id ∈ picking.doneIds ↔
      ∃ line ∈ picking.approvedLines, line.isDone = true ∧ line.externalId = id := by
  simp [doneIds, and_assoc]

theorem mem_pendingIds {picking : PickingSerializer} {id : String} :
    id ∈ picking.pendingIds ↔
      ∃ line ∈ picking.approvedLines, line.isDone = false ∧ line.externalId = id := by
  simp [pendingIds, and_assoc]

/-- A picking holds one line for each external id. -/
theorem line_unique {picking : PickingSerializer} {left right : PickingLine}
    (leftMember : left ∈ picking.approvedLines) (rightMember : right ∈ picking.approvedLines)
    (sameId : left.externalId = right.externalId) : left = right :=
  List.inj_on_of_nodup_map picking.approved_nodup leftMember rightMember sameId

theorem externalId_mem_kitIds {picking : PickingSerializer} {line : PickingLine}
    (member : line ∈ picking.approvedLines) :
    line.externalId ∈ picking.kitIds ↔ line.isKit = true := by
  rw [mem_kitIds]
  constructor
  · rintro ⟨other, otherMember, kit, sameId⟩
    exact line_unique otherMember member sameId ▸ kit
  · exact fun kit => ⟨line, member, kit, rfl⟩

theorem externalId_mem_pendingIds {picking : PickingSerializer} {line : PickingLine}
    (member : line ∈ picking.approvedLines) :
    line.externalId ∈ picking.pendingIds ↔ line.isDone = false := by
  rw [mem_pendingIds]
  constructor
  · rintro ⟨other, otherMember, pending, sameId⟩
    exact line_unique otherMember member sameId ▸ pending
  · exact fun pending => ⟨line, member, pending, rfl⟩

theorem approved_iff {picking : PickingSerializer} :
    picking.approved = true ↔ picking.approvedLines ≠ [] := by
  simp [approved]

end PickingSerializer

namespace SaleTransferSerializer

theorem mem_getRest {pickings : List PickingSerializer} {number : ℕ}
    {picking : PickingSerializer} :
    picking ∈ getRest pickings number ↔ picking ∈ pickings ∧ picking.sequence ≠ number := by
  simp [getRest]

theorem mem_unionIds {idsOf : PickingSerializer → Finset String}
    {pickings : List PickingSerializer} {id : String} :
    id ∈ unionIds idsOf pickings ↔ ∃ picking ∈ pickings, id ∈ idsOf picking := by
  induction pickings with
  | nil => simp [unionIds]
  | cons picking pickings induction =>
      rw [unionIds, List.foldr_cons, ← unionIds, Finset.mem_union, induction]
      simp

/-- A line with this external id and a property is held by a picking with another number. -/
def heldElsewhere (property : PickingLine → Bool) (pickings : List PickingSerializer)
    (number : ℕ) (id : String) : Bool :=
  pickings.any fun picking => picking.sequence != number &&
    picking.approvedLines.any fun line => property line && line.externalId == id

theorem heldElsewhere_iff {property : PickingLine → Bool} {pickings : List PickingSerializer}
    {number : ℕ} {id : String} :
    heldElsewhere property pickings number id = true ↔
      ∃ picking ∈ pickings, picking.sequence ≠ number ∧
        ∃ line ∈ picking.approvedLines, property line = true ∧ line.externalId = id := by
  simp [heldElsewhere]

/-- Lines that the pass over the picking `number` drops. -/
def redundant (pickings : List PickingSerializer) (number : ℕ) (line : PickingLine) : Bool :=
  (line.isKit && heldElsewhere PickingLine.isKit pickings number line.externalId) ||
    (!line.isDone && heldElsewhere PickingLine.isDone pickings number line.externalId)

theorem mem_unionIds_kitIds {pickings : List PickingSerializer} {number : ℕ} {id : String} :
    id ∈ unionIds kitIds (getRest pickings number) ↔
      heldElsewhere PickingLine.isKit pickings number id = true := by
  simp only [mem_unionIds, mem_getRest, mem_kitIds, heldElsewhere_iff, and_assoc]

theorem mem_unionIds_doneIds {pickings : List PickingSerializer} {number : ℕ} {id : String} :
    id ∈ unionIds doneIds (getRest pickings number) ↔
      heldElsewhere PickingLine.isDone pickings number id = true := by
  simp only [mem_unionIds, mem_getRest, mem_doneIds, heldElsewhere_iff, and_assoc]

/-- Changing the picking `number` does not change what the others hold. -/
theorem heldElsewhere_updateAt {property : PickingLine → Bool}
    {change : PickingSerializer → PickingSerializer}
    (keeps : ∀ picking, (change picking).sequence = picking.sequence)
    (pickings : List PickingSerializer) (number : ℕ) (id : String) :
    heldElsewhere property (updateAt number change pickings) number id =
      heldElsewhere property pickings number id := by
  rw [heldElsewhere, updateAt, List.any_map, heldElsewhere]
  congr 1
  funext picking
  by_cases visited : picking.sequence = number
  · simp [visited, keeps]
  · simp [visited]

/-- Header of a picking without its tracking. -/
def header (picking : PickingSerializer) : PickingData :=
  { picking.data with tracking := "" }

/-- Everything about a picking but its tracking. -/
def content (picking : PickingSerializer) : ℕ × PickingData × List PickingLine :=
  (picking.sequence, header picking, picking.approvedLines)

/-- A picking after the pass over the picking `number`, tracking aside. -/
def dropRedundant (pickings : List PickingSerializer) (number : ℕ)
    (picking : PickingSerializer) : PickingSerializer :=
  if picking.sequence = number then
    { picking with
      approvedLines := picking.approvedLines.filter fun line => !redundant pickings number line
      approved_nodup := (List.Sublist.map _ List.filter_sublist).nodup picking.approved_nodup }
  else picking

@[simp]
theorem dropRedundant_sequence (pickings : List PickingSerializer) (number : ℕ)
    (picking : PickingSerializer) :
    (dropRedundant pickings number picking).sequence = picking.sequence := by
  rw [dropRedundant]
  split <;> rfl

@[simp]
theorem dropRedundant_data (pickings : List PickingSerializer) (number : ℕ)
    (picking : PickingSerializer) :
    (dropRedundant pickings number picking).data = picking.data := by
  rw [dropRedundant]
  split <;> rfl

theorem dropRedundant_approvedLines (pickings : List PickingSerializer) (number : ℕ)
    (picking : PickingSerializer) :
    (dropRedundant pickings number picking).approvedLines =
      picking.approvedLines.filter fun line =>
        !(picking.sequence == number && redundant pickings number line) := by
  rw [dropRedundant]
  split
  · rename_i visited
    simp [visited]
  · rename_i other
    have different : (picking.sequence == number) = false := by simpa using other
    simp [different]

private theorem filter_kit_pending (picking : PickingSerializer)
    (pickings : List PickingSerializer) (number : ℕ) (kitDrop doneDrop : Finset String)
    (kitDrop_eq : kitDrop = picking.kitIds ∩ unionIds kitIds (getRest pickings number))
    (doneDrop_eq : doneDrop = (picking.dropLines kitDrop).pendingIds ∩
      unionIds doneIds (getRest pickings number)) :
    ((picking.dropLines kitDrop).dropLines doneDrop).approvedLines =
      picking.approvedLines.filter fun line => !redundant pickings number line := by
  simp only [dropLines, List.filter_filter]
  apply List.filter_congr
  intro line member
  have kitRule : line.externalId ∈ kitDrop ↔
      line.isKit = true ∧
        heldElsewhere PickingLine.isKit pickings number line.externalId = true := by
    rw [kitDrop_eq, Finset.mem_inter, externalId_mem_kitIds member, mem_unionIds_kitIds]
  by_cases kitDropped : line.externalId ∈ kitDrop
  · obtain ⟨kit, held⟩ := kitRule.mp kitDropped
    simp [kitDropped, redundant, kit, held]
  · have remains : line ∈ (picking.dropLines kitDrop).approvedLines := by
      simp [dropLines, member, kitDropped]
    have doneRule : line.externalId ∈ doneDrop ↔
        line.isDone = false ∧
          heldElsewhere PickingLine.isDone pickings number line.externalId = true := by
      rw [doneDrop_eq, Finset.mem_inter, externalId_mem_pendingIds remains, mem_unionIds_doneIds]
    have notKit : (line.isKit &&
        heldElsewhere PickingLine.isKit pickings number line.externalId) = false := by
      rw [Bool.eq_false_iff, ne_eq, Bool.and_eq_true]
      exact fun both => kitDropped (kitRule.mpr both)
    simp only [kitDropped, not_false_eq_true, decide_true, Bool.and_true, redundant, notKit,
      Bool.false_or, doneRule]
    cases line.isDone <;> cases heldElsewhere PickingLine.isDone pickings number line.externalId <;>
      rfl

/-- The two drop rules together remove the redundant lines of the visited picking. -/
theorem dropDuplicated_eq (pickings : List PickingSerializer) (number : ℕ) :
    dropDuplicatedDoneLines (dropDuplicatedKitLines pickings number) number =
      pickings.map (dropRedundant pickings number) := by
  have sameDone : unionIds doneIds (getRest (dropDuplicatedKitLines pickings number) number) =
      unionIds doneIds (getRest pickings number) := by
    ext id
    rw [mem_unionIds_doneIds, mem_unionIds_doneIds, dropDuplicatedKitLines,
      heldElsewhere_updateAt fun _ => dropLines_sequence _ _]
  simp only [dropDuplicatedDoneLines, sameDone]
  simp only [dropDuplicatedKitLines, updateAt, List.map_map]
  apply List.map_congr_left
  intro picking _
  by_cases visited : picking.sequence = number
  · have lines := filter_kit_pending picking pickings number _ _ rfl rfl
    simp only [Function.comp_apply, visited, if_true, dropLines_sequence, dropRedundant]
    rw [PickingSerializer.mk.injEq]
    exact ⟨rfl, rfl, visited ▸ rfl, lines⟩
  · simp [visited, dropRedundant]

/-! ## One pass -/

theorem reassignTracking_content (pickings : List PickingSerializer) (tracking : String) :
    (reassignTracking pickings tracking).map content = pickings.map content := by
  rw [reassignTracking]
  split
  · rw [updateAt, List.map_map]
    apply List.map_congr_left
    intro picking _
    simp only [Function.comp_apply]
    split <;> rfl
  · rfl

/-- One pass removes the redundant lines of the visited picking and may move tracking texts. -/
theorem squashOne_content (pickings : List PickingSerializer) (number : ℕ) :
    (squashOne pickings number).map content =
      (pickings.map (dropRedundant pickings number)).map content := by
  rw [squashOne, dropDuplicated_eq]
  split
  · split
    · rfl
    · exact reassignTracking_content _ _
  · rfl

/-- The picking `number` holds a line. -/
def Held (pickings : List PickingSerializer) (number : ℕ) (line : PickingLine) : Prop :=
  ∃ picking ∈ pickings, picking.sequence = number ∧ line ∈ picking.approvedLines

theorem held_congr {left right : List PickingSerializer}
    (same : left.map content = right.map content) (number : ℕ) (line : PickingLine) :
    Held left number line ↔ Held right number line := by
  have byContent (pickings : List PickingSerializer) :
      Held pickings number line ↔
        ∃ entry ∈ pickings.map content, entry.1 = number ∧ line ∈ entry.2.2 := by
    simp [Held, content]
  rw [byContent, byContent, same]

theorem redundant_iff {pickings : List PickingSerializer} {number : ℕ} {line : PickingLine} :
    redundant pickings number line = true ↔
      ∃ other held, other ≠ number ∧ Held pickings other held ∧
        held.externalId = line.externalId ∧
        ((line.isKit = true ∧ held.isKit = true) ∨ (line.isDone = false ∧ held.isDone = true)) := by
  simp only [redundant, Bool.or_eq_true, Bool.and_eq_true, Bool.not_eq_true', heldElsewhere_iff,
    Held]
  constructor
  · rintro (⟨kit, picking, member, different, held, heldMember, heldKit, sameId⟩ |
      ⟨pending, picking, member, different, held, heldMember, heldDone, sameId⟩)
    · exact ⟨picking.sequence, held, different, ⟨picking, member, rfl, heldMember⟩, sameId,
        Or.inl ⟨kit, heldKit⟩⟩
    · exact ⟨picking.sequence, held, different, ⟨picking, member, rfl, heldMember⟩, sameId,
        Or.inr ⟨pending, heldDone⟩⟩
  · rintro ⟨_, held, different, ⟨picking, member, rfl, heldMember⟩, sameId,
      ⟨kit, heldKit⟩ | ⟨pending, heldDone⟩⟩
    · exact Or.inl ⟨kit, picking, member, different, held, heldMember, heldKit, sameId⟩
    · exact Or.inr ⟨pending, picking, member, different, held, heldMember, heldDone, sameId⟩

/-- Fewer lines make fewer lines redundant. -/
theorem redundant_mono {fewer more : List PickingSerializer}
    (subset : ∀ number line, Held fewer number line → Held more number line)
    {number : ℕ} {line : PickingLine} (still : redundant fewer number line = true) :
    redundant more number line = true := by
  obtain ⟨other, held, different, heldFewer, rest⟩ := redundant_iff.mp still
  exact redundant_iff.mpr ⟨other, held, different, subset other held heldFewer, rest⟩

/-- What one pass leaves: everything but the redundant lines of the visited picking. -/
theorem held_squashOne (pickings : List PickingSerializer) (visited number : ℕ)
    (line : PickingLine) :
    Held (squashOne pickings visited) number line ↔
      Held pickings number line ∧
        (number = visited → redundant pickings visited line = false) := by
  rw [held_congr (squashOne_content pickings visited)]
  constructor
  · rintro ⟨_, member, rfl, lineMember⟩
    obtain ⟨picking, pickingMember, rfl⟩ := List.mem_map.mp member
    rw [dropRedundant_approvedLines] at lineMember
    obtain ⟨held, kept⟩ := List.mem_filter.mp lineMember
    refine ⟨⟨picking, pickingMember, by simp, held⟩, fun here => ?_⟩
    simpa [show picking.sequence = visited by simpa using here] using kept
  · rintro ⟨⟨picking, member, rfl, held⟩, kept⟩
    refine ⟨dropRedundant pickings visited picking, List.mem_map_of_mem member, by simp, ?_⟩
    rw [dropRedundant_approvedLines]
    refine List.mem_filter.mpr ⟨held, ?_⟩
    by_cases here : picking.sequence = visited
    · simp [kept here]
    · have different : (picking.sequence == visited) = false := by simpa using here
      simp [different]

theorem held_of_held_squashOne {pickings : List PickingSerializer} {visited number : ℕ}
    {line : PickingLine} (held : Held (squashOne pickings visited) number line) :
    Held pickings number line :=
  ((held_squashOne pickings visited number line).mp held).1

/-- Some picking holds a line with an external id. -/
def Covered (pickings : List PickingSerializer) (id : String) : Prop :=
  ∃ number line, Held pickings number line ∧ line.externalId = id

/-- A redundant line is dropped while another line with its id stays. -/
theorem covered_squashOne (pickings : List PickingSerializer) (visited : ℕ) (id : String) :
    Covered (squashOne pickings visited) id ↔ Covered pickings id := by
  constructor
  · rintro ⟨number, line, held, sameId⟩
    exact ⟨number, line, held_of_held_squashOne held, sameId⟩
  · rintro ⟨number, line, held, sameId⟩
    by_cases dropped : number = visited ∧ redundant pickings visited line = true
    · obtain ⟨other, stays, different, staysHeld, staysId, _⟩ := redundant_iff.mp dropped.2
      refine ⟨other, stays, (held_squashOne _ _ _ _).mpr ⟨staysHeld, ?_⟩, staysId.trans sameId⟩
      exact fun here => absurd here different
    · refine ⟨number, line, (held_squashOne _ _ _ _).mpr ⟨held, fun here => ?_⟩, sameId⟩
      rw [Bool.eq_false_iff]
      exact fun redundantLine => dropped ⟨here, redundantLine⟩

/-! ## All passes -/

theorem covered_squashPickings (pickings : List PickingSerializer) (id : String) :
    Covered (squashPickings pickings) id ↔ Covered pickings id :=
  foldl_preserves squashOne (fun current => Covered current id ↔ Covered pickings id) _ Iff.rfl
    fun current next same => (covered_squashOne current next id).trans same

/-- No line of the pickings with these numbers is redundant. -/
def Settled (numbers : List ℕ) (pickings : List PickingSerializer) : Prop :=
  ∀ number ∈ numbers, ∀ line, Held pickings number line → redundant pickings number line = false

theorem settled_squashOne {numbers : List ℕ} {pickings : List PickingSerializer}
    (settled : Settled numbers pickings) (visited : ℕ) :
    Settled (numbers ++ [visited]) (squashOne pickings visited) := by
  intro number member line held
  obtain ⟨before, kept⟩ := (held_squashOne pickings visited number line).mp held
  have notBefore : redundant pickings number line = false := by
    rcases List.mem_append.mp member with earlier | last
    · exact settled number earlier line before
    · obtain rfl := List.mem_singleton.mp last
      exact kept rfl
  rw [Bool.eq_false_iff] at notBefore ⊢
  exact fun still => notBefore (redundant_mono (fun _ _ => held_of_held_squashOne) still)

/-- After all passes no picking holds a redundant line. -/
theorem settled_squashPickings (pickings : List PickingSerializer) :
    Settled ((squashPickings pickings).map sequence) (squashPickings pickings) := by
  have run : Settled (pickings.reverse.map sequence) (squashPickings pickings) := by
    apply foldl_visited squashOne Settled
    · intro number member
      simp at member
    · intro visited next _ current _ settled
      exact settled_squashOne settled next
  intro number member
  rw [squashPickings, foldl_squashOne_sequence] at member
  exact run number (by simpa using member)

/-- Squashing keeps the pickings in their order, with the data that identify them. -/
theorem squashPickings_header (pickings : List PickingSerializer) :
    (squashPickings pickings).map header = pickings.map header := by
  apply foldl_preserves squashOne (fun current => current.map header = pickings.map header) _ rfl
  intro current next same
  have headers := congrArg (List.map fun entry => entry.2.1) (squashOne_content current next)
  simp only [List.map_map] at headers
  have unchanged : (squashOne current next).map header = current.map header :=
    headers.trans (List.map_congr_left fun picking _ => by simp [content, header])
  exact unchanged.trans same

end SaleTransferSerializer
end OdooConnector.Transfer
