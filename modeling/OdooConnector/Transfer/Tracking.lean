import Mathlib.Algebra.BigOperators.Group.Finset.Basic
import Mathlib.Algebra.BigOperators.Group.Multiset.Basic
import OdooConnector.Transfer.Squash

/-!
# Where the tracking references go

A picking that a pass has emptied gives its tracking to the first picking that still has
lines. The receiver may be emptied later and then passes everything on, so the references are
followed through the loop by the pieces that each picking has collected: the pieces of the
pickings that still count are always the references of the input.
-/

namespace OdooConnector.Transfer

open PickingSerializer
open scoped BigOperators

namespace SaleTransferSerializer

/-- Numbers of the pickings that have lines or are still to be visited. -/
def live (visited : List ℕ) (pickings : List PickingSerializer) : Finset ℕ :=
  ((pickings.filter fun picking => picking.approved || decide (picking.sequence ∉ visited)).map
    sequence).toFinset

theorem mem_live {visited : List ℕ} {pickings : List PickingSerializer} {number : ℕ} :
    number ∈ live visited pickings ↔
      ∃ picking ∈ pickings,
        picking.sequence = number ∧ (picking.approved = true ∨ number ∉ visited) := by
  simp only [live, List.mem_toFinset, List.mem_map, List.mem_filter, Bool.or_eq_true,
    decide_eq_true_eq]
  constructor
  · rintro ⟨picking, ⟨member, counts⟩, rfl⟩
    exact ⟨picking, member, rfl, counts⟩
  · rintro ⟨picking, member, rfl, counts⟩
    exact ⟨picking, ⟨member, counts⟩, rfl⟩

theorem mem_live_map {visited : List ℕ} {pickings : List PickingSerializer}
    {change : PickingSerializer → PickingSerializer} {number : ℕ} :
    number ∈ live visited (pickings.map change) ↔
      ∃ picking ∈ pickings, (change picking).sequence = number ∧
        ((change picking).approved = true ∨ number ∉ visited) := by
  rw [mem_live]
  simp only [List.mem_map, exists_exists_and_eq_and]

/-- The references are conserved: each tracking text joins the pieces of its picking, and the
pieces of the live pickings together are `references`. -/
structure TrackingKept (references : Multiset String) (visited : List ℕ)
    (pickings : List PickingSerializer) (pieces : ℕ → List String) : Prop where
  joined : ∀ picking ∈ pickings,
    picking.data.tracking = joinNonempty ", " (pieces picking.sequence)
  nonempty : ∀ number, ∀ text ∈ pieces number, text ≠ ""
  conserved : ∑ number ∈ live visited pickings, (pieces number : Multiset String) = references

theorem dropRedundant_of_ne {pickings : List PickingSerializer} {number : ℕ}
    {picking : PickingSerializer} (other : picking.sequence ≠ number) :
    dropRedundant pickings number picking = picking := by
  rw [dropRedundant, if_neg other]

theorem approved_of_dropRedundant {pickings : List PickingSerializer} {number : ℕ}
    {picking : PickingSerializer}
    (approvedAfter : (dropRedundant pickings number picking).approved = true) :
    picking.approved = true := by
  rw [approved_iff, dropRedundant_approvedLines] at approvedAfter
  rw [approved_iff]
  intro empty
  exact approvedAfter (by rw [empty, List.filter_nil])

/-- Two pickings with one number are the same picking. -/
theorem eq_of_sequence {pickings : List PickingSerializer}
    (nodup : (pickings.map sequence).Nodup) {left right : PickingSerializer}
    (leftMember : left ∈ pickings) (rightMember : right ∈ pickings)
    (same : left.sequence = right.sequence) : left = right :=
  List.inj_on_of_nodup_map nodup leftMember rightMember same

/-- The visited picking keeps lines: exactly the same pickings count as before. -/
private theorem live_of_approved {pickings : List PickingSerializer} {visited : List ℕ}
    {picking : PickingSerializer} (nodup : (pickings.map sequence).Nodup)
    (member : picking ∈ pickings)
    (stays : (dropRedundant pickings picking.sequence picking).approved = true) :
    live (visited ++ [picking.sequence])
        (pickings.map (dropRedundant pickings picking.sequence)) = live visited pickings := by
  ext number
  rw [mem_live_map, mem_live]
  simp only [dropRedundant_sequence, List.mem_append, List.mem_singleton, not_or]
  constructor
  · rintro ⟨other, otherMember, same, counts⟩
    exact ⟨other, otherMember, same, counts.imp approved_of_dropRedundant And.left⟩
  · rintro ⟨other, otherMember, same, counts⟩
    refine ⟨other, otherMember, same, ?_⟩
    by_cases here : other.sequence = picking.sequence
    · obtain rfl := eq_of_sequence nodup otherMember member here
      exact Or.inl stays
    · rw [dropRedundant_of_ne here]
      exact counts.imp id fun fresh => ⟨fresh, fun last => here (same.trans last)⟩

/-- The visited picking is emptied: it no longer counts, and no other picking changes its status. -/
private theorem live_of_emptied {pickings : List PickingSerializer} {visited : List ℕ}
    {picking : PickingSerializer} (nodup : (pickings.map sequence).Nodup)
    (member : picking ∈ pickings)
    (emptied : ¬(dropRedundant pickings picking.sequence picking).approved = true) :
    live (visited ++ [picking.sequence])
        (pickings.map (dropRedundant pickings picking.sequence)) =
      (live visited pickings).erase picking.sequence := by
  ext number
  rw [mem_live_map, Finset.mem_erase, mem_live]
  simp only [dropRedundant_sequence, List.mem_append, List.mem_singleton, not_or]
  constructor
  · rintro ⟨other, otherMember, same, counts⟩
    refine ⟨?_, other, otherMember, same, counts.imp approved_of_dropRedundant And.left⟩
    rintro rfl
    obtain rfl := eq_of_sequence nodup otherMember member same
    exact counts.elim emptied fun fresh => fresh.2 rfl
  · rintro ⟨different, other, otherMember, same, counts⟩
    refine ⟨other, otherMember, same, ?_⟩
    have elsewhere : other.sequence ≠ picking.sequence := fun here => different (same ▸ here)
    rw [dropRedundant_of_ne elsewhere]
    exact counts.imp id fun fresh => ⟨fresh, different⟩

theorem live_updateAt_extendTracking (visited : List ℕ) (pickings : List PickingSerializer)
    (number : ℕ) (tracking : String) :
    live visited (updateAt number (extendTracking tracking) pickings) = live visited pickings := by
  ext other
  rw [updateAt, mem_live_map, mem_live]
  constructor
  · rintro ⟨picking, member, counts⟩
    refine ⟨picking, member, ?_⟩
    split at counts <;> exact counts
  · rintro ⟨picking, member, counts⟩
    refine ⟨picking, member, ?_⟩
    split <;> exact counts

/-- Moving the pieces of one index to another one leaves their sum as it was. -/
theorem sum_moved {ι : Type*} [DecidableEq ι] {indices : Finset ι} (pieces : ι → List String)
    {source target : ι} (sourceMember : source ∈ indices) (targetMember : target ∈ indices)
    (different : target ≠ source) :
    ∑ index ∈ indices.erase source,
        (Function.update pieces target (pieces target ++ pieces source) index : Multiset String) =
      ∑ index ∈ indices, (pieces index : Multiset String) := by
  have targetErased : target ∈ indices.erase source :=
    Finset.mem_erase.mpr ⟨different, targetMember⟩
  have rest : ∑ index ∈ (indices.erase source).erase target,
      (Function.update pieces target (pieces target ++ pieces source) index : Multiset String) =
      ∑ index ∈ (indices.erase source).erase target, (pieces index : Multiset String) := by
    apply Finset.sum_congr rfl
    intro index member
    rw [Function.update_of_ne (Finset.mem_erase.mp member).1]
  rw [← Finset.add_sum_erase _ _ targetErased, rest, Function.update_self, ← Multiset.coe_add,
    ← Finset.add_sum_erase indices _ sourceMember, ← Finset.add_sum_erase _ _ targetErased]
  rw [add_assoc, add_left_comm]

theorem find?_sequence {pickings : List PickingSerializer}
    (nodup : (pickings.map sequence).Nodup) {picking : PickingSerializer}
    (member : picking ∈ pickings) :
    (pickings.find? fun other => other.sequence = picking.sequence) = some picking := by
  obtain ⟨found, hit⟩ :
      ∃ found, (pickings.find? fun other => other.sequence = picking.sequence) = some found := by
    rw [← Option.isSome_iff_exists, List.find?_isSome]
    exact ⟨picking, member, by simp⟩
  have same : found.sequence = picking.sequence := by simpa using List.find?_some hit
  rw [hit, eq_of_sequence nodup (List.mem_of_find?_eq_some hit) member same]

/-- The picking that receives the tracking of an emptied one still has lines. -/
theorem receiver_spec {pickings : List PickingSerializer} {receiver : PickingSerializer}
    (last : (pickings.reverse.filter approved).getLast? = some receiver) :
    receiver ∈ pickings ∧ receiver.approved = true := by
  have member := List.mem_of_getLast? last
  rw [List.mem_filter, List.mem_reverse] at member
  exact member

/-- As long as some line is left, there is a receiver. -/
theorem exists_receiver {pickings : List PickingSerializer} {id : String}
    (covered : Covered pickings id) :
    ∃ receiver, (pickings.reverse.filter approved).getLast? = some receiver := by
  obtain ⟨_, line, ⟨picking, member, _, held⟩, _⟩ := covered
  rw [← Option.isSome_iff_exists, List.getLast?_isSome]
  intro empty
  have hasLines : picking.approved = true := approved_iff.mpr (List.ne_nil_of_mem held)
  have absent := List.filter_eq_nil_iff.mp empty picking (List.mem_reverse.mpr member)
  exact absent hasLines

theorem trackingKept_squashOne {references : Multiset String} {visited : List ℕ}
    {pickings : List PickingSerializer} {picking : PickingSerializer}
    (nodup : (pickings.map sequence).Nodup) (member : picking ∈ pickings)
    (fresh : picking.sequence ∉ visited) {id : String} (covered : Covered pickings id)
    {pieces : ℕ → List String} (kept : TrackingKept references visited pickings pieces) :
    ∃ after, TrackingKept references (visited ++ [picking.sequence])
      (squashOne pickings picking.sequence) after := by
  rw [squashOne, dropDuplicated_eq]
  set dropped := pickings.map (dropRedundant pickings picking.sequence) with dropped_eq
  have droppedNodup : (dropped.map sequence).Nodup := by
    simpa [dropped_eq, List.map_map, Function.comp_def] using nodup
  have droppedMember : dropRedundant pickings picking.sequence picking ∈ dropped :=
    List.mem_map_of_mem member
  have droppedJoined : ∀ other ∈ dropped,
      other.data.tracking = joinNonempty ", " (pieces other.sequence) := by
    intro other otherMember
    obtain ⟨before, beforeMember, rfl⟩ := List.mem_map.mp otherMember
    simpa using kept.joined before beforeMember
  have found := find?_sequence droppedNodup droppedMember
  rw [dropRedundant_sequence] at found
  simp only [found]
  split
  · rename_i stays
    refine ⟨pieces, droppedJoined, kept.nonempty, ?_⟩
    rw [live_of_approved nodup member stays]
    exact kept.conserved
  · rename_i emptied
    obtain ⟨number, line, held, sameId⟩ := (covered_squashOne _ picking.sequence _).mpr covered
    have heldDropped := (held_congr (squashOne_content pickings _) number line).mp held
    obtain ⟨receiver, last⟩ := exists_receiver ⟨number, line, heldDropped, sameId⟩
    obtain ⟨receiverMember, receiverApproved⟩ := receiver_spec last
    have different : receiver.sequence ≠ picking.sequence := by
      intro same
      have equal := eq_of_sequence droppedNodup receiverMember droppedMember (by simpa using same)
      exact emptied (equal ▸ receiverApproved)
    have receiverLive : receiver.sequence ∈ live visited pickings := by
      obtain ⟨before, beforeMember, rfl⟩ := List.mem_map.mp receiverMember
      exact mem_live.mpr ⟨before, beforeMember, by simp,
        Or.inl (approved_of_dropRedundant receiverApproved)⟩
    have pickingLive : picking.sequence ∈ live visited pickings :=
      mem_live.mpr ⟨picking, member, rfl, Or.inr fresh⟩
    rw [reassignTracking, last]
    refine ⟨Function.update pieces receiver.sequence
      (pieces receiver.sequence ++ pieces picking.sequence), ?_, ?_, ?_⟩
    · intro other otherMember
      obtain ⟨before, beforeMember, rfl⟩ := List.mem_map.mp otherMember
      by_cases receives : before.sequence = receiver.sequence
      · have own := droppedJoined before beforeMember
        have given : picking.data.tracking = joinNonempty ", " (pieces picking.sequence) :=
          kept.joined picking member
        simp only [receives, if_true, extendTracking_sequence, Function.update_self]
        rw [extendTracking, own, dropRedundant_data, given, joinNonempty_pair, receives]
      · simp only [receives, if_false]
        rw [Function.update_of_ne receives]
        exact droppedJoined before beforeMember
    · intro number text textMember
      by_cases receives : number = receiver.sequence
      · rw [receives, Function.update_self] at textMember
        exact (List.mem_append.mp textMember).elim (kept.nonempty _ text) (kept.nonempty _ text)
      · rw [Function.update_of_ne receives] at textMember
        exact kept.nonempty number text textMember
    · rw [live_updateAt_extendTracking, live_of_emptied nodup member emptied,
        sum_moved pieces pickingLive receiverLive different]
      exact kept.conserved

/-- Non-empty tracking references of a list of pickings. -/
def references (pickings : List PickingSerializer) : List String :=
  (pickings.map fun picking => picking.data.tracking).filter fun text => text ≠ ""

theorem coe_flatten (groups : List (List String)) :
    (groups.flatten : Multiset String) = (groups.map Multiset.ofList).sum := by
  rw [← Multiset.coe_join, Multiset.join, Multiset.sum_coe]

private def ownPieces (pickings : List PickingSerializer) (number : ℕ) : List String :=
  match pickings.find? fun picking => picking.sequence = number with
  | some picking => references [picking]
  | none => []

private theorem ownPieces_sequence {pickings : List PickingSerializer}
    (nodup : (pickings.map sequence).Nodup) {picking : PickingSerializer}
    (member : picking ∈ pickings) :
    ownPieces pickings picking.sequence = references [picking] := by
  rw [ownPieces, find?_sequence nodup member]

/-- Before the loop each picking has its own reference as its only piece. -/
private theorem trackingKept_start {pickings : List PickingSerializer}
    (nodup : (pickings.map sequence).Nodup) :
    TrackingKept (references pickings) [] pickings (ownPieces pickings) where
  joined := by
    intro picking member
    rw [ownPieces_sequence nodup member, ← joinNonempty_singleton ", " picking.data.tracking]
    simp [references, joinNonempty]
  nonempty := by
    intro number text member
    rw [ownPieces] at member
    split at member
    · exact mem_filter_nonempty text member
    · simp at member
  conserved := by
    have allLive : live [] pickings = (pickings.map sequence).toFinset := by
      simp [live]
    have groups : (pickings.map sequence).map (fun number =>
        (ownPieces pickings number : Multiset String)) =
        (pickings.map fun picking => references [picking]).map Multiset.ofList := by
      rw [List.map_map, List.map_map]
      apply List.map_congr_left
      intro picking member
      simp only [Function.comp_apply, ownPieces_sequence nodup member]
    rw [allLive, List.sum_toFinset _ nodup, groups, ← coe_flatten]
    clear groups allLive nodup
    congr 1
    induction pickings with
    | nil => rfl
    | cons picking pickings induction =>
        rw [List.map_cons, List.flatten_cons, induction, references, references, references,
          ← List.filter_append]
        rfl

/-- After the loop the pieces of the pickings with lines are the references of the input. -/
theorem trackingKept_squashPickings {pickings : List PickingSerializer}
    (nodup : (pickings.map sequence).Nodup) {id : String} (covered : Covered pickings id) :
    ∃ pieces, TrackingKept (references pickings) (pickings.reverse.map sequence)
      (squashPickings pickings) pieces := by
  have run : (squashPickings pickings).map sequence = pickings.map sequence ∧
      Covered (squashPickings pickings) id ∧
        ∃ pieces, TrackingKept (references pickings) (pickings.reverse.map sequence)
          (squashPickings pickings) pieces := by
    apply foldl_visited squashOne fun visited current =>
      current.map sequence = pickings.map sequence ∧ Covered current id ∧
        ∃ pieces, TrackingKept (references pickings) visited current pieces
    · exact ⟨rfl, covered, ownPieces pickings, trackingKept_start nodup⟩
    · rintro visited next rest current split ⟨sequences, currentCovered, pieces, kept⟩
      have currentNodup : (current.map sequence).Nodup := sequences ▸ nodup
      have visitedNodup : (visited ++ next :: rest).Nodup := by
        rw [← split, List.map_reverse]
        exact List.nodup_reverse.mpr nodup
      have fresh : next ∉ visited := fun repeated =>
        (List.nodup_append.mp visitedNodup).2.2 next repeated next List.mem_cons_self rfl
      have present : next ∈ current.map sequence := by
        rw [sequences]
        have listed : next ∈ pickings.reverse.map sequence := by simp [split]
        simpa using listed
      obtain ⟨picking, member, rfl⟩ := List.mem_map.mp present
      exact ⟨(squashOne_sequence _ _).trans sequences, (covered_squashOne _ _ _).mpr currentCovered,
        trackingKept_squashOne currentNodup member fresh currentCovered kept⟩
  exact run.2.2

/-- The tracking of every picking with lines joins some of the references, and all of these groups
together hold each reference as often as the input. -/
theorem squashPickings_tracking {pickings : List PickingSerializer}
    (nodup : (pickings.map sequence).Nodup) {id : String} (covered : Covered pickings id) :
    ∃ pieces : List (List String),
      ((squashPickings pickings).filter approved).map (fun picking => picking.data.tracking) =
        pieces.map (", ".intercalate ·) ∧
      (∀ group ∈ pieces, ∀ text ∈ group, text ≠ "") ∧
      pieces.flatten.Perm (references pickings) := by
  obtain ⟨pieces, kept⟩ := trackingKept_squashPickings nodup covered
  set final := squashPickings pickings with final_eq
  have sequences : final.map sequence = pickings.map sequence := by
    rw [final_eq, squashPickings, foldl_squashOne_sequence]
  have liveNumbers : live (pickings.reverse.map sequence) final =
      ((final.filter approved).map sequence).toFinset := by
    rw [live]
    congr 2
    apply List.filter_congr
    intro picking member
    have visited : picking.sequence ∈ pickings.reverse.map sequence := by
      have listed : picking.sequence ∈ final.map sequence := List.mem_map_of_mem member
      rw [sequences] at listed
      simpa using listed
    simp only [visited, not_true_eq_false, decide_false, Bool.or_false]
  have approvedNodup : ((final.filter approved).map sequence).Nodup := by
    apply List.Nodup.sublist (List.filter_sublist.map sequence)
    rw [sequences]
    exact nodup
  refine ⟨(final.filter approved).map fun picking => pieces picking.sequence, ?_, ?_, ?_⟩
  · rw [List.map_map]
    apply List.map_congr_left
    intro picking member
    rw [Function.comp_apply, kept.joined picking (List.mem_of_mem_filter member), joinNonempty,
      List.filter_eq_self.mpr fun text textMember => by
        simpa using kept.nonempty picking.sequence text textMember]
  · intro group member
    obtain ⟨picking, _, rfl⟩ := List.mem_map.mp member
    exact kept.nonempty picking.sequence
  · rw [← Multiset.coe_eq_coe, coe_flatten, ← kept.conserved, liveNumbers,
      List.sum_toFinset _ approvedNodup, List.map_map, List.map_map]
    rfl

/-! ## From the serialized moves to the dump -/

theorem covered_iff_map {pickings : List PickingSerializer} {id : String} :
    Covered pickings id ↔
      ∃ lines ∈ pickings.map approvedLines, ∃ line ∈ lines, line.externalId = id := by
  constructor
  · rintro ⟨_, line, ⟨picking, member, _, held⟩, sameId⟩
    exact ⟨picking.approvedLines, List.mem_map_of_mem member, line, held, sameId⟩
  · rintro ⟨_, member, line, held, sameId⟩
    obtain ⟨picking, pickingMember, rfl⟩ := List.mem_map.mp member
    exact ⟨picking.sequence, line, ⟨picking, pickingMember, rfl, held⟩, sameId⟩

theorem covered_initialSetup {pickings : List PickingSerializer} {id : String} :
    Covered (initialSetup pickings) id ↔ Covered pickings id := by
  have sameLines := initialSetup_map_perm approvedLines (fun _ _ => rfl) pickings
  simp only [covered_iff_map, sameLines.mem_iff]

/-- Serializers of raw pickings, each given by its header and its serialized moves. -/
def ofInputs (inputs : List (PickingData × List PickingLine)) : SaleTransferSerializer :=
  new (inputs.map fun input => PickingSerializer.new input.1 input.2)

theorem covered_ofInputs {inputs : List (PickingData × List PickingLine)} {id : String} :
    Covered (ofInputs inputs).pickings id ↔
      ∃ input ∈ inputs, ∃ line ∈ input.2, line.externalId = id := by
  have approvedIds (lines : List PickingLine) :
      (∃ line ∈ approveLines lines, line.externalId = id) ↔
        ∃ line ∈ lines, line.externalId = id := by
    simpa only [List.mem_map] using mem_approveLines_ids lines id
  rw [ofInputs, new, covered_initialSetup, covered_iff_map]
  simp only [List.map_map, List.mem_map, exists_exists_and_eq_and, Function.comp_apply,
    PickingSerializer.new, approvedIds]

theorem references_ofInputs (inputs : List (PickingData × List PickingLine)) :
    (references (ofInputs inputs).pickings).Perm
      ((inputs.map fun input => input.1.tracking).filter fun text => text ≠ "") := by
  have sameTracking := initialSetup_map_perm (fun picking => picking.data.tracking)
    (fun _ _ => rfl) (inputs.map fun input => PickingSerializer.new input.1 input.2)
  rw [List.map_map] at sameTracking
  exact sameTracking.filter _

theorem covered_dump {transfer : SaleTransferSerializer} {id : String} :
    (∃ picking ∈ transfer.dump, ∃ line ∈ picking.lines, line.id = id) ↔
      Covered transfer.pickings id := by
  rw [dump_eq]
  simp only [List.mem_map, exists_exists_and_eq_and, List.mem_filter, serialize,
    PickingLine.serialize]
  constructor
  · rintro ⟨picking, ⟨member, _⟩, line, held, sameId⟩
    exact ⟨picking.sequence, line, ⟨picking, member, rfl, held⟩, sameId⟩
  · rintro ⟨_, line, ⟨picking, member, _, held⟩, sameId⟩
    exact ⟨picking, ⟨member, approved_iff.mpr (List.ne_nil_of_mem held)⟩, line, held, sameId⟩

/-- Squashing loses nothing: the dump covers the external ids of the input, and as soon as there is
a line at all, the tracking texts of the dump are made of the non-empty references of the input,
each of them used exactly as often as it was given. -/
theorem squash_dump_lossless (inputs : List (PickingData × List PickingLine)) :
    (∀ id, (∃ picking ∈ (ofInputs inputs).squash.dump, ∃ line ∈ picking.lines, line.id = id) ↔
      ∃ input ∈ inputs, ∃ line ∈ input.2, line.externalId = id) ∧
    ((∃ input ∈ inputs, input.2 ≠ []) →
      ∃ pieces : List (List String),
        (ofInputs inputs).squash.dump.map PickingExport.tracking =
          pieces.map (", ".intercalate ·) ∧
        (∀ group ∈ pieces, ∀ text ∈ group, text ≠ "") ∧
        pieces.flatten.Perm
          ((inputs.map fun input => input.1.tracking).filter fun text => text ≠ "")) := by
  constructor
  · intro id
    rw [covered_dump, squash, covered_squashPickings, covered_ofInputs]
  · rintro ⟨input, member, nonempty⟩
    obtain ⟨line, lineMember⟩ := List.exists_mem_of_ne_nil input.2 nonempty
    have covered := covered_ofInputs.mpr ⟨input, member, line, lineMember, rfl⟩
    obtain ⟨pieces, joined, nonemptyPieces, conserved⟩ :=
      squashPickings_tracking (ofInputs inputs).sequence_nodup covered
    refine ⟨pieces, ?_, nonemptyPieces, conserved.trans (references_ofInputs inputs)⟩
    rw [dump_eq, List.map_map, ← joined]
    rfl

/-- A standard picking with two kits, and a dropship whose only line is done in it. -/
def standardDropship : List (PickingData × List PickingLine) :=
  [({ erpId := 106, name := "Picking1-standard", carrier := "Carrier", carrierCode := "Carrier"
      isBackorder := false, isDropship := false, tracking := "tracking_ref1" },
    [{ externalId := "external_id1", qtyDemand := 5, qtyDone := 16, isKit := true
       multiSerialization := true },
     { externalId := "external_id2", qtyDemand := 3, qtyDone := 17, isKit := true
       multiSerialization := true },
     { externalId := "external_id3", qtyDemand := 6, qtyDone := 2, isKit := false
       multiSerialization := true }]),
   ({ erpId := 107, name := "Picking3-dropship", carrier := "Carrier", carrierCode := "Carrier"
      isBackorder := false, isDropship := true, tracking := "tracking_ref3" },
    [{ externalId := "external_id1", qtyDemand := 5, qtyDone := 1, isKit := false
       multiSerialization := true }])]

theorem squash_dump_lossless_standardDropship :
    ∃ pieces : List (List String),
      ["tracking_ref1, tracking_ref3"] = pieces.map (", ".intercalate ·) ∧
      (∀ group ∈ pieces, ∀ text ∈ group, text ≠ "") ∧
      pieces.flatten.Perm ["tracking_ref1", "tracking_ref3"] :=
  (squash_dump_lossless standardDropship).2 (by decide)

end SaleTransferSerializer
end OdooConnector.Transfer
