import Mathlib.Algebra.Order.Ring.Int
import Mathlib.Data.Finset.Card
import Mathlib.Data.Fintype.Card
import Mathlib.Data.Set.Finite.Basic
import Mathlib.Logic.Relation
import Mathlib.Order.WellFounded

/-!
# Topological sorting by counting dependencies

Vertices without dependencies are queued. Taking a vertex from the queue lowers the count of each
of its neighbours, and a neighbour whose count comes to zero is queued. In a graph without cycles
every vertex is listed once, after everything it depends on.
-/

namespace OdooConnector

open Relation

variable {α : Type*} [DecidableEq α]

/-- Lower the count of a neighbour and queue it when nothing is left to wait for. -/
def release (state : (α → ℤ) × List α) (node : α) : (α → ℤ) × List α :=
  (Function.update state.1 node (state.1 node - 1),
    if state.1 node - 1 = 0 then state.2 ++ [node] else state.2)

/-- List the queued vertices and those that they release. -/
def sortQueue (neighbours : α → List α) : ℕ → (α → ℤ) → List α → List α
  | 0, _, _ => []
  | _ + 1, _, [] => []
  | fuel + 1, depends, vertex :: queue =>
      let released := (neighbours vertex).foldl release (depends, queue)
      vertex :: sortQueue neighbours fuel released.1 released.2

/-- Everything with an edge to an element of the list stands before it. -/
def AfterDependencies (neighbours : α → List α) (list : List α) : Prop :=
  ∀ before vertex after, list = before ++ vertex :: after →
    ∀ dependency, vertex ∈ neighbours dependency → dependency ∈ before

omit [DecidableEq α] in
/-- Everything from which an element of the list can be reached stands before it. -/
theorem AfterDependencies.reached {neighbours : α → List α} {list : List α}
    (ordered : AfterDependencies neighbours list) {before after : List α} {vertex dependency : α}
    (split : list = before ++ vertex :: after)
    (path : TransGen (fun source target => target ∈ neighbours source) dependency vertex) :
    dependency ∈ before := by
  induction path using TransGen.head_induction_on with
  | single edge => exact ordered before vertex after split _ edge
  | head edge _ induction =>
      obtain ⟨earlier, later, rfl⟩ := List.append_of_mem induction
      refine List.mem_append_left _ (ordered earlier _ (later ++ vertex :: after) ?_ _ edge)
      rw [split, List.append_assoc, List.cons_append]

theorem foldl_release (nodes : List α) (distinct : nodes.Nodup) (depends : α → ℤ)
    (queue : List α) :
    nodes.foldl release (depends, queue) =
      (fun node => depends node - if node ∈ nodes then 1 else 0,
        queue ++ nodes.filter fun node => depends node = 1) := by
  induction nodes generalizing depends queue with
  | nil => simp
  | cons first nodes induction =>
      obtain ⟨fresh, distinct⟩ := List.nodup_cons.mp distinct
      rw [List.foldl_cons, release, induction distinct]
      have others : (nodes.filter fun node =>
          Function.update depends first (depends first - 1) node = 1) =
          nodes.filter fun node => depends node = 1 := by
        refine List.filter_congr fun node member => ?_
        rw [Function.update_of_ne fun (same : node = first) => fresh (same ▸ member)]
      refine Prod.ext (funext fun node => ?_) ?_
      · by_cases same : node = first
        · subst same
          simp [fresh]
        · simp [same]
      · simp only [others, List.filter_cons, sub_eq_zero]
        by_cases last : depends first = 1
        · simp [last]
        · simp [last]

/-- What holds while the queue is worked off: `listed` are the vertices listed so far, the count of
a vertex is the number of its dependencies not yet listed, and a vertex is listed or queued as soon
as this number is zero. -/
structure Sorting (neighbours : α → List α) (vertices : Finset α) (listed : List α)
    (depends : α → ℤ) (queue : List α) : Prop where
  distinct : (listed ++ queue).Nodup
  counts : ∀ node, depends node =
    ((vertices.filter fun vertex => vertex ∉ listed ∧ node ∈ neighbours vertex).card : ℤ)
  ready : ∀ node, node ∈ listed ++ queue ↔ node ∈ vertices ∧ depends node = 0
  ordered : AfterDependencies neighbours listed

variable {neighbours : α → List α} {vertices : Finset α}
variable (distinct : ∀ vertex, (neighbours vertex).Nodup)
variable (edges : ∀ vertex node, node ∈ neighbours vertex → vertex ∈ vertices ∧ node ∈ vertices)
include distinct edges

theorem Sorting.step {listed queue : List α} {depends : α → ℤ} {vertex : α}
    (sorting : Sorting neighbours vertices listed depends (vertex :: queue)) :
    Sorting neighbours vertices (listed ++ [vertex])
      ((neighbours vertex).foldl release (depends, queue)).1
      ((neighbours vertex).foldl release (depends, queue)).2 := by
  rw [foldl_release _ (distinct vertex)]
  have fresh : vertex ∉ listed := by
    intro member
    exact (List.nodup_append.mp sorting.distinct).2.2 vertex member vertex List.mem_cons_self rfl
  obtain ⟨inside, free⟩ := (sorting.ready vertex).mp (by simp)
  have dependencies (dependency : α) (edge : vertex ∈ neighbours dependency) :
      dependency ∈ listed := by
    rw [sorting.counts, Int.natCast_eq_zero, Finset.card_eq_zero,
      Finset.filter_eq_empty_iff] at free
    by_contra missing
    exact free (edges _ _ edge).1 ⟨missing, edge⟩
  have counts (node : α) : depends node - (if node ∈ neighbours vertex then 1 else 0) =
      ((vertices.filter fun other => other ∉ listed ++ [vertex] ∧
        node ∈ neighbours other).card : ℤ) := by
    have erased : (vertices.filter fun other => other ∉ listed ++ [vertex] ∧
        node ∈ neighbours other) =
        (vertices.filter fun other => other ∉ listed ∧ node ∈ neighbours other).erase vertex := by
      ext other
      simp only [Finset.mem_filter, Finset.mem_erase, List.mem_append, List.mem_singleton, not_or]
      tauto
    rw [erased, sorting.counts]
    by_cases edge : node ∈ neighbours vertex
    · have member : vertex ∈ vertices.filter fun other =>
          other ∉ listed ∧ node ∈ neighbours other := by simp [inside, fresh, edge]
      have positive := Finset.card_pos.mpr ⟨vertex, member⟩
      rw [if_pos edge, Finset.card_erase_of_mem member]
      omega
    · rw [if_neg edge, Finset.erase_eq_of_notMem (by simp [edge]), sub_zero]
  have waiting (node : α) (edge : node ∈ neighbours vertex) : 0 < depends node := by
    rw [sorting.counts, Int.natCast_pos, Finset.card_pos]
    exact ⟨vertex, by simp [inside, fresh, edge]⟩
  refine ⟨?_, counts, fun node => ?_, ?_⟩
  · have rearranged : listed ++ [vertex] ++ (queue ++ (neighbours vertex).filter fun node =>
        depends node = 1) = (listed ++ vertex :: queue) ++ (neighbours vertex).filter fun node =>
        depends node = 1 := by simp
    rw [rearranged]
    refine List.nodup_append.mpr ⟨sorting.distinct, (distinct vertex).filter _, ?_⟩
    rintro node member other released rfl
    have zero := ((sorting.ready node).mp member).2
    have one := (List.mem_filter.mp released).2
    simp only [zero, decide_eq_true_eq] at one
    omega
  · have before := sorting.ready node
    simp only [List.mem_append, List.mem_cons, List.mem_filter, decide_eq_true_eq,
      List.not_mem_nil, or_false] at before ⊢
    by_cases edge : node ∈ neighbours vertex
    · have positive := waiting node edge
      have known := (edges _ _ edge).2
      simp only [edge, if_true, true_and, known]
      constructor
      · rintro ((member | member) | member | one)
        · exact absurd (before.mp (Or.inl member)).2 (by omega)
        · exact absurd (before.mp (Or.inr (Or.inl member))).2 (by omega)
        · exact absurd (before.mp (Or.inr (Or.inr member))).2 (by omega)
        · omega
      · intro zero
        exact Or.inr (Or.inr (by omega))
    · simp only [edge, if_false, sub_zero, false_and, or_false, ← before, or_assoc]
  · intro before other after split dependency edge
    obtain rfl | ⟨front, last, rfl⟩ := after.eq_nil_or_concat
    · obtain ⟨rfl, same⟩ := List.append_inj' split rfl
      exact dependencies dependency ((List.cons.inj same).1 ▸ edge)
    · rw [List.concat_eq_append, ← List.cons_append, ← List.append_assoc] at split
      exact sorting.ordered before other front (List.append_inj' split rfl).1 dependency edge

/-- With fuel for every vertex the queue is worked off completely. -/
theorem Sorting.run (fuel : ℕ) {listed queue : List α} {depends : α → ℤ}
    (sorting : Sorting neighbours vertices listed depends queue)
    (enough : vertices.card ≤ listed.length + fuel) :
    ∃ depends', Sorting neighbours vertices (listed ++ sortQueue neighbours fuel depends queue)
      depends' [] := by
  induction fuel generalizing listed queue depends with
  | zero =>
      have inside : (listed ++ queue).toFinset ⊆ vertices := by
        intro vertex member
        exact ((sorting.ready vertex).mp (List.mem_toFinset.mp member)).1
      have bound := Finset.card_le_card inside
      rw [List.toFinset_card_of_nodup sorting.distinct, List.length_append] at bound
      obtain rfl : queue = [] := List.length_eq_zero_iff.mp (by omega)
      exact ⟨depends, by simpa [sortQueue] using sorting⟩
  | succ fuel induction =>
      cases queue with
      | nil => exact ⟨depends, by simpa [sortQueue] using sorting⟩
      | cons vertex queue =>
          have next := sorting.step distinct edges
          obtain ⟨depends', final⟩ := induction next (by
            rw [List.length_append, List.length_singleton]
            omega)
          exact ⟨depends', by simpa [sortQueue] using final⟩

/-- Sorting a graph without cycles lists every vertex once, after its dependencies. -/
theorem sortQueue_spec (acyclic : ∀ vertex,
      ¬ TransGen (fun source target => target ∈ neighbours source) vertex vertex)
    {depends : α → ℤ} (counts : ∀ node, depends node =
      ((vertices.filter fun vertex => node ∈ neighbours vertex).card : ℤ))
    {roots : List α} (rootsDistinct : roots.Nodup)
    (rootsFree : ∀ node, node ∈ roots ↔
      node ∈ vertices ∧ ∀ vertex, node ∉ neighbours vertex) :
    (sortQueue neighbours vertices.card depends roots).Nodup ∧
      (∀ vertex, vertex ∈ sortQueue neighbours vertices.card depends roots ↔ vertex ∈ vertices) ∧
      AfterDependencies neighbours (sortQueue neighbours vertices.card depends roots) := by
  have start : Sorting neighbours vertices [] depends roots := by
    refine ⟨rootsDistinct, fun node => by simp [counts], fun node => ?_, ?_⟩
    · rw [List.nil_append, rootsFree, counts, Int.natCast_eq_zero, Finset.card_eq_zero,
        Finset.filter_eq_empty_iff]
      refine and_congr_right fun _ => ⟨fun none vertex _ => none vertex, fun none vertex edge => ?_⟩
      exact none (edges _ _ edge).1 edge
    · intro before vertex after split
      simp at split
  obtain ⟨depends', final⟩ := start.run distinct edges vertices.card (by simp)
  rw [List.nil_append] at final
  have listedIff := final.ready
  simp only [List.append_nil] at listedIff
  refine ⟨by simpa using final.distinct, fun vertex => ⟨fun member => ?_, fun member => ?_⟩,
    final.ordered⟩
  · exact ((listedIff vertex).mp member).1
  -- a vertex that is never listed has a dependency that is never listed, and so on without end
  · let Below (left right : vertices) : Prop :=
      TransGen (fun source target => target ∈ neighbours source) left.1 right.1
    have transitive : IsTrans vertices Below := ⟨fun _ _ _ first second => first.trans second⟩
    have irreflexive : Std.Irrefl Below := ⟨fun vertex => acyclic vertex.1⟩
    have founded : WellFounded Below := Finite.wellFounded_of_trans_of_irrefl Below
    suffices ∀ vertex : vertices,
        vertex.1 ∈ sortQueue neighbours vertices.card depends roots from this ⟨vertex, member⟩
    intro vertex
    induction vertex using founded.induction with
    | _ vertex induction =>
        rw [listedIff]
        refine ⟨vertex.2, ?_⟩
        rw [final.counts, Int.natCast_eq_zero, Finset.card_eq_zero, Finset.filter_eq_empty_iff]
        rintro dependency known ⟨unlisted, edge⟩
        exact unlisted (induction ⟨dependency, known⟩ (.single edge))

end OdooConnector
