import OdooConnector.Transfer.Tracking

/-!
# The normal form of a squashed transfer

After one squash no two pickings hold the same kit, and no picking waits for a line that another
one has done. A second squash therefore drops nothing; it only hands the tracking of the emptied
pickings to the first picking with lines once more.
-/

namespace OdooConnector.Transfer

open PickingSerializer

namespace SaleTransferSerializer

/-- Two pickings neither share a kit nor wait for each other. -/
def Separate (left right : PickingSerializer) : Prop :=
  Disjoint left.kitIds right.kitIds ∧ Disjoint left.pendingIds right.doneIds ∧
    Disjoint right.pendingIds left.doneIds

private theorem disjoint_of_settled {pickings : List PickingSerializer}
    (settled : Settled (pickings.map sequence) pickings) {left right : PickingSerializer}
    (leftMember : left ∈ pickings) (rightMember : right ∈ pickings)
    (different : left.sequence ≠ right.sequence) :
    Disjoint left.kitIds right.kitIds ∧ Disjoint left.pendingIds right.doneIds := by
  have notRedundant : ∀ line ∈ left.approvedLines,
      redundant pickings left.sequence line = false := fun line member =>
    settled left.sequence (List.mem_map_of_mem leftMember) line ⟨left, leftMember, rfl, member⟩
  have heldRight : ∀ line ∈ right.approvedLines, Held pickings right.sequence line :=
    fun line member => ⟨right, rightMember, rfl, member⟩
  constructor
  · rw [Finset.disjoint_left]
    intro id leftId rightId
    obtain ⟨line, member, kit, rfl⟩ := mem_kitIds.mp leftId
    obtain ⟨other, otherMember, otherKit, sameId⟩ := mem_kitIds.mp rightId
    refine Bool.eq_false_iff.mp (notRedundant line member) (redundant_iff.mpr ?_)
    exact ⟨right.sequence, other, different.symm, heldRight other otherMember, sameId,
      Or.inl ⟨kit, otherKit⟩⟩
  · rw [Finset.disjoint_left]
    intro id leftId rightId
    obtain ⟨line, member, pending, rfl⟩ := mem_pendingIds.mp leftId
    obtain ⟨other, otherMember, done, sameId⟩ := mem_doneIds.mp rightId
    refine Bool.eq_false_iff.mp (notRedundant line member) (redundant_iff.mpr ?_)
    exact ⟨right.sequence, other, different.symm, heldRight other otherMember, sameId,
      Or.inr ⟨pending, done⟩⟩

theorem squash_separate (transfer : SaleTransferSerializer) :
    transfer.squash.pickings.Pairwise Separate := by
  have settled := settled_squashPickings transfer.pickings
  have distinct := List.pairwise_map.mp transfer.squash.sequence_nodup
  refine distinct.imp_of_mem fun leftMember rightMember different => ?_
  have forth := disjoint_of_settled settled leftMember rightMember different
  have back := disjoint_of_settled settled rightMember leftMember (Ne.symm different)
  exact ⟨forth.1, forth.2, back.2⟩

/-! ## A second squash -/

theorem dropRedundant_of_settled {pickings : List PickingSerializer}
    (settled : Settled (pickings.map sequence) pickings) (number : ℕ) :
    pickings.map (dropRedundant pickings number) = pickings := by
  conv_rhs => rw [← List.map_id pickings]
  apply List.map_congr_left
  intro picking member
  rw [dropRedundant]
  split
  · rename_i visited
    have keepsAll : (picking.approvedLines.filter fun line => !redundant pickings number line) =
        picking.approvedLines := by
      apply List.filter_eq_self.mpr
      intro line lineMember
      have kept := settled number (visited ▸ List.mem_map_of_mem member) line
        ⟨picking, member, visited, lineMember⟩
      simp [kept]
    simp only [keepsAll, id_eq]
  · rfl

theorem settled_congr {left right : List PickingSerializer}
    (same : left.map content = right.map content)
    (settled : Settled (left.map sequence) left) : Settled (right.map sequence) right := by
  have numbers : left.map sequence = right.map sequence := by
    simpa [content, Function.comp_def] using congrArg (List.map Prod.fst) same
  intro number member line held
  have before := settled number (numbers ▸ member) line ((held_congr same number line).mpr held)
  rw [Bool.eq_false_iff] at before ⊢
  exact fun now => before (redundant_mono (fun _ _ => (held_congr same _ _).mpr) now)

/-- Append several tracking references to the one of a picking. -/
def appendTracking (texts : List String) (picking : PickingSerializer) : PickingSerializer :=
  { picking with data.tracking := joinNonempty ", " (picking.data.tracking :: texts) }

/-- Append tracking references to the first picking with lines. -/
def withTracking (texts : List String) (pickings : List PickingSerializer) :
    List PickingSerializer :=
  match pickings.find? approved with
  | some receiver => updateAt receiver.sequence (appendTracking texts) pickings
  | none => pickings

/-- Tracking references of the pickings without lines. -/
def emptiedTracking (pickings : List PickingSerializer) : List String :=
  (pickings.filter fun picking => !picking.approved).map fun picking => picking.data.tracking

theorem withTracking_nil (pickings : List PickingSerializer) :
    withTracking [] pickings = pickings := by
  have unchanged : appendTracking [] = id := by
    funext picking
    rw [appendTracking, joinNonempty_singleton]
    rfl
  rw [withTracking]
  split
  · simp [updateAt, unchanged]
  · rfl

theorem withTracking_content (texts : List String) (pickings : List PickingSerializer) :
    (withTracking texts pickings).map content = pickings.map content := by
  rw [withTracking]
  split
  · rw [updateAt, List.map_map]
    apply List.map_congr_left
    intro picking _
    simp only [Function.comp_apply]
    split <;> rfl
  · rfl

private theorem getLast?_filter_reverse (pickings : List PickingSerializer) :
    (pickings.reverse.filter approved).getLast? = pickings.find? approved := by
  rw [List.filter_reverse, List.getLast?_reverse, List.head?_filter]

private theorem find?_updateAt_appendTracking {pickings : List PickingSerializer}
    {receiver : PickingSerializer} (texts : List String)
    (first : pickings.find? approved = some receiver) :
    (updateAt receiver.sequence (appendTracking texts) pickings).find? approved =
      some (appendTracking texts receiver) := by
  rw [updateAt, List.find?_map]
  have sameStatus : (approved ∘ fun picking : PickingSerializer =>
      if picking.sequence = receiver.sequence then appendTracking texts picking else picking) =
      approved := by
    funext picking
    simp only [Function.comp_apply]
    split <;> rfl
  rw [sameStatus, first]
  simp

/-- Handing over one more reference extends the list of appended references. -/
theorem reassignTracking_withTracking (texts : List String) (text : String)
    (pickings : List PickingSerializer) :
    reassignTracking (withTracking texts pickings) text =
      withTracking (texts ++ [text]) pickings := by
  rw [reassignTracking, getLast?_filter_reverse, withTracking, withTracking]
  cases first : pickings.find? approved with
  | none => simp [first]
  | some receiver =>
      simp only [find?_updateAt_appendTracking texts first]
      rw [updateAt, updateAt, updateAt, List.map_map]
      apply List.map_congr_left
      intro picking _
      by_cases receives : picking.sequence = receiver.sequence
      · simp only [Function.comp_apply, receives, if_true, appendTracking]
        rw [extendTracking, joinNonempty_extend]
        rfl
      · simp [receives, appendTracking]

theorem withTracking_sequence (texts : List String) (pickings : List PickingSerializer) :
    (withTracking texts pickings).map sequence = pickings.map sequence := by
  simpa [content, Function.comp_def] using
    congrArg (List.map Prod.fst) (withTracking_content texts pickings)

/-- A picking without lines is found unchanged, and every other picking is found with lines. -/
private theorem find?_withTracking {pickings : List PickingSerializer}
    (nodup : (pickings.map sequence).Nodup) {picking : PickingSerializer}
    (member : picking ∈ pickings) (texts : List String) :
    ∃ found, (withTracking texts pickings).find?
        (fun other => other.sequence = picking.sequence) = some found ∧
      found.approved = picking.approved ∧ (picking.approved = false → found = picking) := by
  have currentNodup : ((withTracking texts pickings).map sequence).Nodup := by
    rw [withTracking_sequence]
    exact nodup
  obtain ⟨found, foundMember, sameNumber, sameStatus, unchanged⟩ :
      ∃ found ∈ withTracking texts pickings, found.sequence = picking.sequence ∧
        found.approved = picking.approved ∧ (picking.approved = false → found = picking) := by
    rw [withTracking]
    split
    · rename_i receiver first
      refine ⟨_, List.mem_map_of_mem member, ?_⟩
      split
      · rename_i receives
        refine ⟨rfl, rfl, fun empty => ?_⟩
        have same := eq_of_sequence nodup member (List.mem_of_find?_eq_some first) receives
        rw [same, List.find?_some first] at empty
        contradiction
      · exact ⟨rfl, rfl, fun _ => rfl⟩
    · exact ⟨picking, member, rfl, rfl, fun _ => rfl⟩
  refine ⟨found, ?_, sameStatus, unchanged⟩
  rw [← sameNumber]
  exact find?_sequence currentNodup foundMember

/-- One more pass over a squashed transfer only moves the tracking of a picking without lines. -/
theorem squashOne_withTracking {pickings : List PickingSerializer}
    (nodup : (pickings.map sequence).Nodup) (settled : Settled (pickings.map sequence) pickings)
    {picking : PickingSerializer} (member : picking ∈ pickings) (texts : List String) :
    squashOne (withTracking texts pickings) picking.sequence =
      withTracking (texts ++ emptiedTracking [picking]) pickings := by
  have currentSettled := settled_congr (withTracking_content texts pickings).symm settled
  obtain ⟨found, hit, sameStatus, unchanged⟩ := find?_withTracking nodup member texts
  rw [squashOne, dropDuplicated_eq, dropRedundant_of_settled currentSettled]
  simp only [hit, sameStatus]
  cases status : picking.approved with
  | true => simp [emptiedTracking, status]
  | false =>
      simp only [Bool.false_eq_true, if_false, unchanged status, reassignTracking_withTracking]
      simp [emptiedTracking, status]

theorem squashPickings_of_settled {pickings : List PickingSerializer}
    (nodup : (pickings.map sequence).Nodup) (settled : Settled (pickings.map sequence) pickings) :
    squashPickings pickings = withTracking (emptiedTracking pickings.reverse) pickings := by
  rw [squashPickings, List.foldl_map]
  apply foldl_visited (fun current picking => squashOne current picking.sequence)
    fun visited current => current = withTracking (emptiedTracking visited) pickings
  · exact (withTracking_nil pickings).symm
  · rintro visited next rest current split rfl
    have member : next ∈ pickings := by
      rw [← List.mem_reverse, split]
      simp
    rw [squashOne_withTracking nodup settled member]
    simp [emptiedTracking, List.filter_append]

/-- A second squash hands the tracking of the emptied pickings over once more. -/
theorem squash_squash_pickings (transfer : SaleTransferSerializer) :
    transfer.squash.squash.pickings =
      withTracking (emptiedTracking transfer.squash.pickings.reverse) transfer.squash.pickings :=
  squashPickings_of_settled transfer.squash.sequence_nodup
    (settled_squashPickings transfer.pickings)

theorem withTracking_of_empty {texts : List String} (empty : ∀ text ∈ texts, text = "")
    (pickings : List PickingSerializer) : withTracking texts pickings = pickings := by
  have unchanged : appendTracking texts = appendTracking [] := by
    funext picking
    have noTexts : (texts.filter fun text => text ≠ "") = [] := by
      simpa using empty
    simp only [appendTracking, joinNonempty, List.filter_cons, noTexts, List.filter_nil]
  rw [withTracking, unchanged, ← withTracking, withTracking_nil]

/-- The pickings that follow the first one with lines keep their tracking. -/
theorem withTracking_approved (texts : List String) {pickings : List PickingSerializer}
    (nodup : (pickings.map sequence).Nodup) :
    (withTracking texts pickings).filter approved =
      match pickings.filter approved with
      | [] => []
      | first :: others => appendTracking texts first :: others := by
  rw [withTracking]
  cases first : pickings.find? approved with
  | none =>
      have none : pickings.filter approved = [] := by
        rw [List.filter_eq_nil_iff]
        exact List.find?_eq_none.mp first
      simp only [none]
  | some receiver =>
      have sameStatus : (approved ∘ fun picking : PickingSerializer =>
          if picking.sequence = receiver.sequence then appendTracking texts picking
          else picking) = approved := by
        funext picking
        simp only [Function.comp_apply]
        split <;> rfl
      obtain ⟨others, split⟩ : ∃ others, pickings.filter approved = receiver :: others := by
        have head : (pickings.filter approved).head? = some receiver := by
          rw [List.head?_filter, first]
        exact List.head?_eq_some_iff.mp head
      have distinct : ((receiver :: others).map sequence).Nodup := by
        rw [← split]
        exact List.Nodup.sublist (List.filter_sublist.map sequence) nodup
      simp only [updateAt, List.filter_map, sameStatus, split, List.map_cons, if_true]
      congr 1
      conv_rhs => rw [← List.map_id others]
      apply List.map_congr_left
      intro other member
      have different : other.sequence ≠ receiver.sequence := fun same =>
        (List.nodup_cons.mp distinct).1 (same ▸ List.mem_map_of_mem member)
      simp [different]

/-- Normal form of a squash: kits are held once and nothing waits for a line that is done
elsewhere. Squashing again keeps all lines and appends the tracking of the pickings without lines
to the first picking with lines, so that it changes nothing at all when these references are
empty. -/
theorem squash_normal_form (pickings : List PickingSerializer) :
    (new pickings).squash.pickings.Pairwise Separate ∧
    (new pickings).squash.squash.pickings.map approvedLines =
      (new pickings).squash.pickings.map approvedLines ∧
    (new pickings).squash.squash.pickings.filter approved =
      (match (new pickings).squash.pickings.filter approved with
      | [] => []
      | first :: others =>
          appendTracking (emptiedTracking (new pickings).squash.pickings.reverse) first ::
            others) ∧
    ((∀ picking ∈ (new pickings).squash.pickings,
        picking.approved = false → picking.data.tracking = "") →
      (new pickings).squash.squash = (new pickings).squash) := by
  set transfer := new pickings
  refine ⟨squash_separate transfer, ?_, ?_, fun empty => ?_⟩
  · have contents := congrArg (List.map fun entry => entry.2.2)
      (withTracking_content (emptiedTracking transfer.squash.pickings.reverse)
        transfer.squash.pickings)
    rw [squash_squash_pickings]
    simpa [content, Function.comp_def] using contents
  · rw [squash_squash_pickings, withTracking_approved _ transfer.squash.sequence_nodup]
  · have emptyTexts : ∀ text ∈ emptiedTracking transfer.squash.pickings.reverse, text = "" := by
      intro text member
      obtain ⟨picking, pickingMember, rfl⟩ := List.mem_map.mp member
      obtain ⟨listed, status⟩ := List.mem_filter.mp pickingMember
      exact empty picking (List.mem_reverse.mp listed) (by simpa using status)
    have same := squash_squash_pickings transfer
    rw [withTracking_of_empty emptyTexts] at same
    exact SaleTransferSerializer.ext same

/-- The reference of the emptied dropship is reported twice after a second squash. -/
theorem squash_twice_repeats_tracking :
    (ofInputs standardDropship).squash.dump.map PickingExport.tracking =
      ["tracking_ref1, tracking_ref3"] ∧
    (ofInputs standardDropship).squash.squash.dump.map PickingExport.tracking =
      ["tracking_ref1, tracking_ref3, tracking_ref3"] := by
  decide

/-- Without the dropship there is no emptied picking, and a second squash changes nothing. -/
theorem squash_normal_form_standard :
    (ofInputs (standardDropship.take 1)).squash.squash =
      (ofInputs (standardDropship.take 1)).squash :=
  (squash_normal_form _).2.2.2 (by decide)

end SaleTransferSerializer
end OdooConnector.Transfer
