import Mathlib.Data.Finset.Card
import Mathlib.Data.List.MinMax

/-!
# Priority queues with lazy removal

An object that is removed stays in the heap until it is popped or added again. Adding, removing and
popping act on the objects that are not removed as on a set, and the least of them is popped.
-/

namespace OdooConnector

/-- The removed objects are among those of the heap. -/
structure PriorityQueue (α : Type*) [DecidableEq α] where
  heap : List α
  known : Finset α
  removed : Finset α
  nodup : heap.Nodup
  mem_known : ∀ object, object ∈ known ↔ object ∈ heap
  removed_subset : removed ⊆ known

namespace PriorityQueue

variable {α κ : Type*} [DecidableEq α] [LinearOrder κ] (queue : PriorityQueue α) (key : α → κ)

def empty : PriorityQueue α where
  heap := []
  known := ∅
  removed := ∅
  nodup := List.nodup_nil
  mem_known := by simp
  removed_subset := Finset.empty_subset _

instance : Membership α (PriorityQueue α) where
  mem queue object := object ∈ queue.known ∧ object ∉ queue.removed

instance (object : α) : Decidable (object ∈ queue) :=
  inferInstanceAs (Decidable (object ∈ queue.known ∧ object ∉ queue.removed))

def length : ℕ := queue.known.card - queue.removed.card

/-- Adding an object that is queued does nothing; one that was removed comes back. -/
def add (object : α) : PriorityQueue α :=
  if known : object ∈ queue.known then
    { queue with
      removed := queue.removed.erase object
      removed_subset := (Finset.erase_subset _ _).trans queue.removed_subset }
  else
    { heap := queue.heap ++ [object]
      known := insert object queue.known
      removed := queue.removed.erase object
      nodup := by
        have fresh : object ∉ queue.heap := fun member => known ((queue.mem_known _).mpr member)
        rw [List.nodup_append]
        refine ⟨queue.nodup, List.nodup_singleton _, fun other member last added same => ?_⟩
        rw [List.mem_singleton.mp added] at same
        exact fresh (same ▸ member)
      mem_known := by
        intro other
        simp [queue.mem_known, or_comm]
      removed_subset := (Finset.erase_subset _ _).trans
        (queue.removed_subset.trans (Finset.subset_insert _ _)) }

def remove (object : α) : PriorityQueue α :=
  if known : object ∈ queue.known then
    { queue with
      removed := insert object queue.removed
      removed_subset := Finset.insert_subset known queue.removed_subset }
  else queue

/-- An object leaves the heap. -/
def forget (object : α) : PriorityQueue α where
  heap := queue.heap.erase object
  known := queue.known.erase object
  removed := queue.removed.erase object
  nodup := queue.nodup.erase object
  mem_known := by
    intro other
    rw [Finset.mem_erase, queue.nodup.mem_erase_iff, queue.mem_known]
  removed_subset := Finset.erase_subset_erase _ queue.removed_subset

/-- The least object; removed ones on top of it leave the heap. -/
def firstWithin : ℕ → PriorityQueue α → Option α × PriorityQueue α
  | 0, queue => (none, queue)
  | fuel + 1, queue =>
      match queue.heap.argmin key with
      | none => (none, queue)
      | some object =>
          if object ∈ queue.removed then firstWithin fuel (queue.forget object)
          else (some object, queue)

/-- `queue[0]` -/
def first : Option α × PriorityQueue α := firstWithin key queue.heap.length queue

/-- Pop the least object; removed ones on top of it leave the heap too. -/
def popWithin : ℕ → PriorityQueue α → Option α × PriorityQueue α
  | 0, queue => (none, queue)
  | fuel + 1, queue =>
      match queue.heap.argmin key with
      | none => (none, queue)
      | some object =>
          if object ∈ queue.removed then popWithin fuel (queue.forget object)
          else (some object, queue.forget object)

def pop : Option α × PriorityQueue α := popWithin key queue.heap.length queue

variable {queue key} {object other : α} {after : PriorityQueue α} {fuel : ℕ}

theorem mem_def : object ∈ queue ↔ object ∈ queue.known ∧ object ∉ queue.removed := Iff.rfl

@[simp]
theorem not_mem_empty : object ∉ (empty : PriorityQueue α) := by
  simp [mem_def, empty]

theorem mem_heap (member : object ∈ queue) : object ∈ queue.heap :=
  (queue.mem_known object).mp member.1

theorem mem_add : other ∈ queue.add object ↔ other = object ∨ other ∈ queue := by
  rw [mem_def, mem_def, add]
  by_cases same : other = object
  · subst same
    split <;> simp_all
  · split <;> simp_all

theorem mem_remove : other ∈ queue.remove object ↔ other ∈ queue ∧ other ≠ object := by
  rw [remove]
  split
  · rw [mem_def, mem_def]
    simp only [Finset.mem_insert, not_or]
    tauto
  · rename_i unknown
    refine ⟨fun member => ⟨member, fun same => unknown (same ▸ member.1)⟩, fun member => member.1⟩

theorem mem_forget : other ∈ queue.forget object ↔ other ∈ queue ∧ other ≠ object := by
  simp only [mem_def, forget, Finset.mem_erase, not_and]
  tauto

theorem length_forget (member : object ∈ queue.heap) :
    (queue.forget object).heap.length + 1 = queue.heap.length := by
  have positive := List.length_pos_of_mem member
  rw [forget, List.length_erase_of_mem member]
  omega

theorem length_add_le : (queue.add object).heap.length ≤ queue.heap.length + 1 := by
  rw [add]
  split
  · exact Nat.le_succ _
  · rw [List.length_append, List.length_singleton]

theorem length_eq_zero_iff : queue.length = 0 ↔ ∀ object, object ∉ queue := by
  rw [length, ← Finset.card_sdiff_of_subset queue.removed_subset, Finset.card_eq_zero,
    Finset.eq_empty_iff_forall_notMem]
  simp [mem_def]

/-- Forgetting a removed object changes nothing. -/
theorem mem_forget_of_removed (removed : object ∈ queue.removed) :
    other ∈ queue.forget object ↔ other ∈ queue := by
  rw [mem_forget]
  exact ⟨And.left, fun member => ⟨member, fun same => member.2 (same ▸ removed)⟩⟩

theorem not_mem_of_argmin (nothing : queue.heap.argmin key = none) : other ∉ queue := by
  intro member
  have listed := mem_heap member
  rw [List.argmin_eq_none.mp nothing] at listed
  cases listed

theorem mem_of_argmin (least : queue.heap.argmin key = some object)
    (kept : object ∉ queue.removed) : object ∈ queue :=
  ⟨(queue.mem_known object).mpr (List.argmin_mem least), kept⟩

/-- What the first object of a queue is. -/
structure IsFirst (key : α → κ) (queue : PriorityQueue α) (found : Option α)
    (after : PriorityQueue α) : Prop where
  mem : ∀ other, other ∈ after ↔ other ∈ queue
  length_le : after.heap.length ≤ queue.heap.length
  none : found = none → ∀ other, other ∉ queue
  some : ∀ object, found = some object →
    object ∈ queue ∧ ∀ other ∈ queue, key object ≤ key other

theorem firstWithin_isFirst (enough : queue.heap.length ≤ fuel) :
    IsFirst key queue (firstWithin key fuel queue).1 (firstWithin key fuel queue).2 := by
  induction fuel generalizing queue with
  | zero =>
      have nothing : queue.heap.argmin key = none := by
        rw [List.length_eq_zero_iff.mp (Nat.le_zero.mp enough), List.argmin_nil]
      refine ⟨fun _ => Iff.rfl, le_rfl, fun _ _ => not_mem_of_argmin nothing, fun _ found => ?_⟩
      cases found
  | succ fuel induction =>
      rw [firstWithin]
      cases least : queue.heap.argmin key with
      | none =>
          refine ⟨fun _ => Iff.rfl, le_rfl, fun _ _ => not_mem_of_argmin least, fun _ found => ?_⟩
          cases found
      | some object =>
          have shorter := length_forget (List.argmin_mem least)
          by_cases removed : object ∈ queue.removed
          · simp only [removed, if_true]
            obtain ⟨mem, length_le, none, some⟩ :=
              @induction (queue.forget object) (by omega)
            refine ⟨fun other => (mem other).trans (mem_forget_of_removed removed), by omega,
              fun found other => ?_, fun first found => ?_⟩
            · rw [← mem_forget_of_removed removed]
              exact none found other
            · obtain ⟨member, first_le⟩ := some first found
              refine ⟨(mem_forget_of_removed removed).mp member, fun other member => ?_⟩
              exact first_le other ((mem_forget_of_removed removed).mpr member)
          · simp only [removed, if_false]
            refine ⟨fun _ => Iff.rfl, le_rfl, fun found => (by cases found), fun first found => ?_⟩
            cases found
            exact ⟨mem_of_argmin least removed, fun other member =>
              List.le_of_mem_argmin (mem_heap member) least⟩

variable (queue key) in
theorem first_isFirst : IsFirst key queue (queue.first key).1 (queue.first key).2 :=
  firstWithin_isFirst le_rfl

/-- What popping a queue does. -/
structure IsPop (key : α → κ) (queue : PriorityQueue α) (found : Option α)
    (after : PriorityQueue α) : Prop where
  none : found = none → (∀ other, other ∉ queue) ∧ ∀ other, other ∉ after
  some : ∀ object, found = some object →
    object ∈ queue ∧ (∀ other ∈ queue, key object ≤ key other) ∧
      (∀ other, other ∈ after ↔ other ∈ queue ∧ other ≠ object) ∧
      after.heap.length < queue.heap.length

theorem popWithin_isPop (enough : queue.heap.length ≤ fuel) :
    IsPop key queue (popWithin key fuel queue).1 (popWithin key fuel queue).2 := by
  induction fuel generalizing queue with
  | zero =>
      have nothing : queue.heap.argmin key = none := by
        rw [List.length_eq_zero_iff.mp (Nat.le_zero.mp enough), List.argmin_nil]
      refine ⟨fun _ => ⟨fun _ => not_mem_of_argmin nothing, fun _ => not_mem_of_argmin nothing⟩,
        fun _ found => ?_⟩
      cases found
  | succ fuel induction =>
      rw [popWithin]
      cases least : queue.heap.argmin key with
      | none =>
          refine ⟨fun _ => ⟨fun _ => not_mem_of_argmin least, fun _ => not_mem_of_argmin least⟩,
            fun _ found => ?_⟩
          cases found
      | some object =>
          have shorter := length_forget (List.argmin_mem least)
          by_cases removed : object ∈ queue.removed
          · simp only [removed, if_true]
            obtain ⟨none, some⟩ := @induction (queue.forget object) (by omega)
            refine ⟨fun found => ?_, fun popped found => ?_⟩
            · obtain ⟨before, after⟩ := none found
              refine ⟨fun other member => ?_, after⟩
              exact before other ((mem_forget_of_removed removed).mpr member)
            · obtain ⟨member, least_le, mem, length_lt⟩ := some popped found
              refine ⟨(mem_forget_of_removed removed).mp member, fun other member => ?_,
                fun other => ?_, by omega⟩
              · exact least_le other ((mem_forget_of_removed removed).mpr member)
              · rw [mem other, mem_forget_of_removed removed]
          · simp only [removed, if_false]
            refine ⟨fun found => (by cases found), fun popped found => ?_⟩
            cases found
            exact ⟨mem_of_argmin least removed, fun other member =>
              List.le_of_mem_argmin (mem_heap member) least, fun other => mem_forget, by omega⟩

variable (queue key) in
theorem pop_isPop : IsPop key queue (queue.pop key).1 (queue.pop key).2 :=
  popWithin_isPop le_rfl

theorem length_popWithin_le : (queue.popWithin key fuel).2.heap.length ≤ queue.heap.length := by
  induction fuel generalizing queue with
  | zero => exact le_rfl
  | succ fuel induction =>
      rw [popWithin]
      cases least : queue.heap.argmin key with
      | none => exact le_rfl
      | some object =>
          have shorter := length_forget (List.argmin_mem least)
          dsimp only
          split
          · have rest := @induction (queue.forget object)
            omega
          · dsimp only
            omega

variable (queue key) in
theorem length_pop_le : (queue.pop key).2.heap.length ≤ queue.heap.length :=
  length_popWithin_le

/-- Looking at the first object and popping it takes it off the heap. -/
theorem length_pop_first (popped : ((queue.first key).2.pop key).1 = some object) :
    ((queue.first key).2.pop key).2.heap.length < queue.heap.length := by
  have first := (queue.first_isFirst key).length_le
  obtain ⟨-, -, -, pop⟩ := ((queue.first key).2.pop_isPop key).some object popped
  omega

/-! ## What is left in the heap -/

theorem mem_heap_of_mem_add (listed : other ∈ (queue.add object).heap) :
    other = object ∨ other ∈ queue.heap := by
  rw [add] at listed
  split at listed
  · exact Or.inr listed
  · rw [List.mem_append, List.mem_singleton] at listed
    exact listed.symm

theorem heap_remove : (queue.remove object).heap = queue.heap := by
  rw [remove]
  split <;> rfl

theorem mem_heap_forget : other ∈ (queue.forget object).heap ↔
    other ≠ object ∧ other ∈ queue.heap :=
  queue.nodup.mem_erase_iff

theorem mem_heap_of_mem_firstWithin (listed : other ∈ (firstWithin key fuel queue).2.heap) :
    other ∈ queue.heap := by
  induction fuel generalizing queue with
  | zero => exact listed
  | succ fuel induction =>
      rw [firstWithin] at listed
      cases least : queue.heap.argmin key with
      | none =>
          rw [least] at listed
          exact listed
      | some object =>
          rw [least] at listed
          dsimp only at listed
          split at listed
          · exact (mem_heap_forget.mp (induction listed)).2
          · exact listed

/-- The objects of the heap after a pop were in it before, and the popped one is not. -/
theorem mem_heap_of_mem_popWithin (listed : other ∈ (popWithin key fuel queue).2.heap) :
    other ∈ queue.heap ∧ (popWithin key fuel queue).1 ≠ some other := by
  induction fuel generalizing queue with
  | zero => exact ⟨listed, (Option.some_ne_none other).symm⟩
  | succ fuel induction =>
      rw [popWithin] at listed ⊢
      cases least : queue.heap.argmin key with
      | none =>
          rw [least] at listed
          exact ⟨listed, (Option.some_ne_none other).symm⟩
      | some object =>
          rw [least] at listed
          dsimp only at listed ⊢
          split at listed
          · rename_i removed
            rw [if_pos removed]
            obtain ⟨before, apart⟩ := induction listed
            exact ⟨(mem_heap_forget.mp before).2, apart⟩
          · rename_i kept
            rw [if_neg kept]
            obtain ⟨apart, before⟩ := mem_heap_forget.mp listed
            exact ⟨before, fun same => apart (Option.some.inj same).symm⟩

end PriorityQueue

end OdooConnector
