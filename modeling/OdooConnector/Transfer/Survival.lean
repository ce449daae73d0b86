import OdooConnector.Transfer.NormalForm

/-!
# Which lines survive

In the tracking export every kit line is done, because it reports the quantity of its parent. Then
the outcome of the loop can be read off the input: of the pickings with one kit the first keeps it,
and a pending line survives exactly when no other picking has done it.
-/

namespace OdooConnector.Transfer

open PickingSerializer

namespace SaleTransferSerializer

/-- A picking with a smaller number holds a kit line with this external id. -/
def kitBefore (pickings : List PickingSerializer) (number : ℕ) (id : String) : Bool :=
  pickings.any fun picking => decide (picking.sequence < number) &&
    picking.approvedLines.any fun line => line.isKit && line.externalId == id

/-- Lines of the input that squashing leaves to the picking `number`. -/
def survives (pickings : List PickingSerializer) (number : ℕ) (line : PickingLine) : Bool :=
  !(line.isKit && kitBefore pickings number line.externalId) &&
    !(!line.isDone && heldElsewhere PickingLine.isDone pickings number line.externalId)

/-- Kit lines are done. -/
def KitsDone (pickings : List PickingSerializer) : Prop :=
  ∀ picking ∈ pickings, ∀ line ∈ picking.approvedLines, line.isKit = true → line.isDone = true

theorem kitBefore_iff {pickings : List PickingSerializer} {number : ℕ} {id : String} :
    kitBefore pickings number id = true ↔
      ∃ other line, other < number ∧ Held pickings other line ∧ line.isKit = true ∧
        line.externalId = id := by
  simp only [kitBefore, List.any_eq_true, Bool.and_eq_true, decide_eq_true_eq, beq_iff_eq, Held]
  constructor
  · rintro ⟨picking, member, before, line, held, kit, sameId⟩
    exact ⟨picking.sequence, line, before, ⟨picking, member, rfl, held⟩, kit, sameId⟩
  · rintro ⟨_, line, before, ⟨picking, member, rfl, held⟩, kit, sameId⟩
    exact ⟨picking, member, before, line, held, kit, sameId⟩

theorem heldElsewhere_iff_held {property : PickingLine → Bool} {pickings : List PickingSerializer}
    {number : ℕ} {id : String} :
    heldElsewhere property pickings number id = true ↔
      ∃ other line, other ≠ number ∧ Held pickings other line ∧ property line = true ∧
        line.externalId = id := by
  rw [heldElsewhere_iff]
  constructor
  · rintro ⟨picking, member, different, line, held, holds, sameId⟩
    exact ⟨picking.sequence, line, different, ⟨picking, member, rfl, held⟩, holds, sameId⟩
  · rintro ⟨_, line, different, ⟨picking, member, rfl, held⟩, holds, sameId⟩
    exact ⟨picking, member, different, line, held, holds, sameId⟩

theorem held_unique {pickings : List PickingSerializer} (nodup : (pickings.map sequence).Nodup)
    {number : ℕ} {left right : PickingLine} (leftHeld : Held pickings number left)
    (rightHeld : Held pickings number right) (sameId : left.externalId = right.externalId) :
    left = right := by
  obtain ⟨leftPicking, leftMember, leftNumber, leftLine⟩ := leftHeld
  obtain ⟨rightPicking, rightMember, rightNumber, rightLine⟩ := rightHeld
  obtain rfl := eq_of_sequence nodup leftMember rightMember (leftNumber.trans rightNumber.symm)
  exact line_unique leftLine rightLine sameId

/-- If a kit is held at all, some picking holds it with no kit before it. -/
theorem exists_first_kit {pickings : List PickingSerializer} {number : ℕ} {line : PickingLine}
    (held : Held pickings number line) (kit : line.isKit = true) :
    ∃ first held, Held pickings first held ∧ held.isKit = true ∧
      held.externalId = line.externalId ∧
      kitBefore pickings first line.externalId = false := by
  induction number using Nat.strong_induction_on generalizing line with
  | _ number induction =>
      cases before : kitBefore pickings number line.externalId with
      | false => exact ⟨number, line, held, kit, rfl, before⟩
      | true =>
          obtain ⟨other, otherLine, smaller, otherHeld, otherKit, sameId⟩ :=
            kitBefore_iff.mp before
          obtain ⟨first, firstLine, firstHeld, firstKit, firstId, none⟩ :=
            induction other smaller otherHeld otherKit
          exact ⟨first, firstLine, firstHeld, firstKit, firstId.trans sameId, sameId ▸ none⟩

/-- The pickings while the loop has visited some of them. -/
def keepSurvivors (all : List PickingSerializer) (visited : List ℕ) (picking : PickingSerializer) :
    PickingSerializer :=
  if picking.sequence ∈ visited then
    { picking with
      approvedLines := picking.approvedLines.filter (survives all picking.sequence)
      approved_nodup := (List.Sublist.map _ List.filter_sublist).nodup picking.approved_nodup }
  else picking

@[simp]
theorem keepSurvivors_sequence (all : List PickingSerializer) (visited : List ℕ)
    (picking : PickingSerializer) :
    (keepSurvivors all visited picking).sequence = picking.sequence := by
  rw [keepSurvivors]
  split <;> rfl

theorem held_keepSurvivors {all : List PickingSerializer} {visited : List ℕ} {number : ℕ}
    {line : PickingLine} :
    Held (all.map (keepSurvivors all visited)) number line ↔
      Held all number line ∧ (number ∈ visited → survives all number line = true) := by
  constructor
  · rintro ⟨_, member, rfl, held⟩
    obtain ⟨picking, pickingMember, rfl⟩ := List.mem_map.mp member
    rw [keepSurvivors_sequence]
    rw [keepSurvivors] at held
    split at held
    · obtain ⟨before, survived⟩ := List.mem_filter.mp held
      exact ⟨⟨picking, pickingMember, rfl, before⟩, fun _ => survived⟩
    · rename_i later
      exact ⟨⟨picking, pickingMember, rfl, held⟩, fun seen => absurd seen later⟩
  · rintro ⟨⟨picking, member, rfl, held⟩, survived⟩
    refine ⟨keepSurvivors all visited picking, List.mem_map_of_mem member, by simp, ?_⟩
    rw [keepSurvivors]
    split
    · rename_i seen
      exact List.mem_filter.mpr ⟨held, survived seen⟩
    · exact held

/-- Earlier pickings have lost no kit that an unvisited one could drop. -/
theorem kitElsewhere_keepSurvivors {all : List PickingSerializer} {visited : List ℕ} {number : ℕ}
    {line : PickingLine}
    (later : ∀ picking ∈ all, picking.sequence ∈ visited ↔ number < picking.sequence)
    (held : Held all number line) (kit : line.isKit = true) :
    heldElsewhere PickingLine.isKit (all.map (keepSurvivors all visited)) number
      line.externalId = kitBefore all number line.externalId := by
  have laterHeld : ∀ {other otherLine}, Held all other otherLine →
      (other ∈ visited ↔ number < other) := by
    rintro _ _ ⟨picking, member, rfl, _⟩
    exact later picking member
  rw [Bool.eq_iff_iff, heldElsewhere_iff_held, kitBefore_iff]
  constructor
  · rintro ⟨other, otherLine, different, otherHeld, otherKit, sameId⟩
    obtain ⟨before, survived⟩ := held_keepSurvivors.mp otherHeld
    refine ⟨other, otherLine, ?_, before, otherKit, sameId⟩
    by_contra notSmaller
    have seen : other ∈ visited := (laterHeld before).mpr (by omega)
    have blocked : kitBefore all other otherLine.externalId = true :=
      kitBefore_iff.mpr ⟨number, line, by omega, held, kit, sameId.symm⟩
    simp [survives, otherKit, blocked] at survived
    exact survived seen
  · rintro ⟨other, otherLine, smaller, otherHeld, otherKit, sameId⟩
    refine ⟨other, otherLine, by omega, held_keepSurvivors.mpr ⟨otherHeld, fun seen => ?_⟩,
      otherKit, sameId⟩
    exact absurd ((laterHeld otherHeld).mp seen) (by omega)

/-- A done line elsewhere survives, or the first of the kits that share its id does. -/
theorem doneElsewhere_keepSurvivors {all : List PickingSerializer} {visited : List ℕ} {number : ℕ}
    {line : PickingLine} (nodup : (all.map sequence).Nodup) (kitsDone : KitsDone all)
    (held : Held all number line) (pending : line.isDone = false) :
    heldElsewhere PickingLine.isDone (all.map (keepSurvivors all visited)) number
      line.externalId = heldElsewhere PickingLine.isDone all number line.externalId := by
  have kitDone : ∀ {other otherLine}, Held all other otherLine → otherLine.isKit = true →
      otherLine.isDone = true := by
    rintro _ _ ⟨picking, member, _, otherHeld⟩ kit
    exact kitsDone picking member _ otherHeld kit
  rw [Bool.eq_iff_iff, heldElsewhere_iff_held, heldElsewhere_iff_held]
  constructor
  · rintro ⟨other, otherLine, different, otherHeld, rest⟩
    exact ⟨other, otherLine, different, (held_keepSurvivors.mp otherHeld).1, rest⟩
  · rintro ⟨other, otherLine, different, otherHeld, otherDone, sameId⟩
    cases otherKit : otherLine.isKit with
    | false =>
        refine ⟨other, otherLine, different, held_keepSurvivors.mpr ⟨otherHeld, fun _ => ?_⟩,
          otherDone, sameId⟩
        simp [survives, otherKit, otherDone]
    | true =>
        obtain ⟨first, firstLine, firstHeld, firstKit, firstId, none⟩ :=
          exists_first_kit otherHeld otherKit
        have firstDone := kitDone firstHeld firstKit
        refine ⟨first, firstLine, ?_, held_keepSurvivors.mpr ⟨firstHeld, fun _ => ?_⟩,
          firstDone, firstId.trans sameId⟩
        · rintro rfl
          have same := held_unique nodup firstHeld held (firstId.trans sameId)
          rw [same, pending] at firstDone
          contradiction
        · simp [survives, firstKit, firstDone, firstId, none]

/-- While the later pickings have been visited, the lines that are redundant in the next one are
those that the input condition excludes. -/
theorem redundant_keepSurvivors {all : List PickingSerializer} {visited : List ℕ} {number : ℕ}
    {line : PickingLine} (nodup : (all.map sequence).Nodup) (kitsDone : KitsDone all)
    (later : ∀ picking ∈ all, picking.sequence ∈ visited ↔ number < picking.sequence)
    (held : Held all number line) :
    redundant (all.map (keepSurvivors all visited)) number line =
      !survives all number line := by
  simp only [redundant, survives, Bool.not_and, Bool.not_not]
  cases kit : line.isKit with
  | false =>
      cases pending : line.isDone with
      | false => simp [doneElsewhere_keepSurvivors nodup kitsDone held pending]
      | true => simp
  | true =>
      cases pending : line.isDone with
      | false =>
          simp [kitElsewhere_keepSurvivors later held kit,
            doneElsewhere_keepSurvivors nodup kitsDone held pending]
      | true => simp [kitElsewhere_keepSurvivors later held kit]

theorem redundant_congr {left right : List PickingSerializer}
    (same : left.map content = right.map content) (number : ℕ) (line : PickingLine) :
    redundant left number line = redundant right number line := by
  rw [Bool.eq_iff_iff]
  constructor
  · exact redundant_mono fun _ _ => (held_congr same _ _).mp
  · exact redundant_mono fun _ _ => (held_congr same _ _).mpr

/-- A pass does not depend on the tracking of the pickings. -/
theorem squashOne_content_congr {left right : List PickingSerializer}
    (same : left.map content = right.map content) (number : ℕ) :
    (squashOne left number).map content = (squashOne right number).map content := by
  have passed (pickings : List PickingSerializer) :
      (pickings.map (dropRedundant pickings number)).map content =
        (pickings.map content).map fun entry =>
          (entry.1, entry.2.1, entry.2.2.filter fun line =>
            !(entry.1 == number && redundant pickings number line)) := by
    rw [List.map_map, List.map_map]
    apply List.map_congr_left
    intro picking _
    simp only [Function.comp_apply, content, header, dropRedundant_sequence, dropRedundant_data,
      dropRedundant_approvedLines]
  rw [squashOne_content, squashOne_content, passed, passed, same]
  simp only [redundant_congr same]

private theorem mem_visited_iff {numbers visited rest : List ℕ} {next : ℕ}
    (ascending : numbers.Pairwise (· < ·)) (split : numbers.reverse = visited ++ next :: rest)
    {number : ℕ} (member : number ∈ numbers) : number ∈ visited ↔ next < number := by
  have descending : (visited ++ next :: rest).Pairwise (· > ·) := by
    rw [← split]
    exact List.pairwise_reverse.mpr ascending
  obtain ⟨_, tail, before⟩ := List.pairwise_append.mp descending
  have after := (List.pairwise_cons.mp tail).1
  constructor
  · exact fun seen => before number seen next List.mem_cons_self
  · intro larger
    have listed : number ∈ visited ++ next :: rest := by
      rw [← split]
      exact List.mem_reverse.mpr member
    rcases List.mem_append.mp listed with seen | unseen
    · exact seen
    · rcases List.mem_cons.mp unseen with rfl | later
      · omega
      · have smaller := after number later
        omega

theorem squashPickings_keepSurvivors {pickings : List PickingSerializer}
    (ascending : (pickings.map sequence).Pairwise (· < ·)) (kitsDone : KitsDone pickings) :
    (squashPickings pickings).map content =
      (pickings.map (keepSurvivors pickings (pickings.reverse.map sequence))).map content := by
  have nodup : (pickings.map sequence).Nodup := ascending.imp fun smaller => Nat.ne_of_lt smaller
  apply foldl_visited squashOne fun visited current =>
    current.map content = (pickings.map (keepSurvivors pickings visited)).map content
  · simp [keepSurvivors]
  · intro visited next rest current split same
    rw [squashOne_content_congr same next, squashOne_content, List.map_map, List.map_map,
      List.map_map]
    apply List.map_congr_left
    intro picking member
    rw [List.map_reverse] at split
    have visitedIff : ∀ other ∈ pickings, other.sequence ∈ visited ↔ next < other.sequence :=
      fun other otherMember => mem_visited_iff ascending split (List.mem_map_of_mem otherMember)
    simp only [Function.comp_apply, dropRedundant, keepSurvivors_sequence]
    split
    · rename_i here
      subst here
      have unseen : picking.sequence ∉ visited := by
        rw [visitedIff picking member]
        omega
      have rule : picking.approvedLines.filter (fun line =>
          !redundant (pickings.map (keepSurvivors pickings visited)) picking.sequence line) =
          picking.approvedLines.filter (survives pickings picking.sequence) := by
        apply List.filter_congr
        intro line lineMember
        rw [redundant_keepSurvivors nodup kitsDone visitedIff ⟨picking, member, rfl, lineMember⟩,
          Bool.not_not]
      simp only [keepSurvivors, unseen, if_false, List.mem_append, List.mem_singleton, or_true,
        if_true, content, header, rule]
    · rename_i elsewhere
      simp [keepSurvivors, elsewhere]

/-- Squashing filters the lines of every picking by the input condition. -/
theorem squashPickings_approvedLines {pickings : List PickingSerializer}
    (ascending : (pickings.map sequence).Pairwise (· < ·)) (kitsDone : KitsDone pickings) :
    (squashPickings pickings).map (fun picking => (picking.data.erpId, picking.approvedLines)) =
      pickings.map fun picking => (picking.data.erpId,
        picking.approvedLines.filter (survives pickings picking.sequence)) := by
  have contents := congrArg (List.map fun entry => (entry.2.1.erpId, entry.2.2))
    (squashPickings_keepSurvivors ascending kitsDone)
  rw [List.map_map, List.map_map, List.map_map] at contents
  refine contents.trans (List.map_congr_left fun picking member => ?_)
  have seen : picking.sequence ∈ pickings.reverse.map sequence :=
    List.mem_map_of_mem (List.mem_reverse.mpr member)
  simp only [Function.comp_apply, content, header, keepSurvivors, seen, if_true]

theorem initialSetup_ascending (pickings : List PickingSerializer) :
    ((initialSetup pickings).map sequence).Pairwise (· < ·) := by
  rw [initialSetup_sequence]
  exact List.pairwise_lt_range'

end SaleTransferSerializer
end OdooConnector.Transfer
