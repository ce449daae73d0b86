import OdooConnector.Queue.JobOrder

/-!
# The graph of jobs that is built

The walk over the small graphs visits every object from which a job can be reached, and so the
merged graph has exactly the edges of the delayable's network.
-/

namespace OdooConnector.Queue

open Network Relation

/-- A small graph connects a job with another: the one is a tail of a vertex and the other a head
of one of its neighbours. -/
def Linked (graph : List (Delayable × List Delayable)) (source target : ℕ) : Prop :=
  ∃ vertex ∈ graph, source ∈ vertex.1.tail ∧ target ∈ Delayable.headAll vertex.2

namespace Delayable

/-- An object is reached through the small graphs. -/
def Reached (delayable : Delayable) : Delayable → Prop :=
  ReflTransGen (fun source target => target ∈ source.vertices) delayable

theorem mem_chainGraph {first : Delayable} {rest next : List Delayable} {object : Delayable} :
    object ∈ (chainGraph first rest next).map Prod.fst ↔ object ∈ first :: rest := by
  induction rest generalizing first with
  | nil => simp [chainGraph]
  | cons element rest induction =>
      rw [chainGraph, List.map_cons, List.mem_cons, induction]
      exact List.mem_cons.symm

theorem vertices_job {id : ℕ} {next : List Delayable} :
    (job id next).vertices = job id next :: next := by
  simp [vertices, graph, Function.comp_def]

theorem mem_vertices_chain {id : ℕ} {first object : Delayable} {rest next : List Delayable} :
    object ∈ (chain id first rest next).vertices ↔ object ∈ first :: rest ++ next := by
  rw [vertices, graph, List.map_append, List.mem_append, mem_chainGraph, List.mem_append]
  simp [Function.comp_def]

theorem mem_vertices_group {id : ℕ} {object : Delayable} {elements next : List Delayable} :
    object ∈ (group id elements next).vertices ↔
      object ∈ elements ∨ (elements ≠ [] ∧ object ∈ next) := by
  rw [vertices, graph, List.map_append, List.mem_append]
  cases elements <;> simp [Function.comp_def]

/-- A vertex is the object itself or a part of it. -/
theorem mem_vertices {delayable object : Delayable} (member : object ∈ delayable.vertices) :
    object = delayable ∨ object ∈ delayable.parts := by
  cases delayable with
  | job id next =>
      rw [vertices_job] at member
      exact List.mem_cons.mp member
  | chain id first rest next => exact Or.inr (mem_vertices_chain.mp member)
  | group id elements next =>
      refine Or.inr (List.mem_append.mpr ?_)
      exact (mem_vertices_group.mp member).imp_right And.right

theorem vertices_objects {delayable object : Delayable} (member : object ∈ delayable.vertices) :
    object ∈ delayable.objects := by
  obtain rfl | part := mem_vertices member
  · exact mem_objects_self object
  · exact mem_objects.mpr (Or.inr ⟨object, part, mem_objects_self object⟩)

theorem reached_objects {delayable object : Delayable} (reached : delayable.Reached object) :
    object ∈ delayable.objects := by
  induction reached with
  | refl => exact mem_objects_self delayable
  | tail _ member induction => exact objects_trans induction (vertices_objects member)

end Delayable

namespace JobGraph

theorem mem_foldl_heads (connections : List (ℕ × Finset ℕ)) (heads : Option (Finset ℕ)) (job : ℕ) :
    job ∈ (connections.foldl (fun heads connection => some (heads.getD ∅ ∪ connection.2))
        heads).getD ∅ ↔
      job ∈ heads.getD ∅ ∨ ∃ connection ∈ connections, job ∈ connection.2 := by
  induction connections generalizing heads with
  | nil => simp
  | cons connection connections induction =>
      rw [List.foldl_cons, induction, Option.getD_some, Finset.mem_union]
      simp only [List.mem_cons, exists_eq_or_imp, or_assoc]

theorem mem_neighbours_mergeGraph (jobs : JobGraph) (graph : List (Delayable × List Delayable))
    (source target : ℕ) :
    target ∈ (jobs.mergeGraph graph).neighbours source ↔
      target ∈ jobs.neighbours source ∨ Linked graph source target := by
  rw [neighbours, mergeGraph, Dict.get?_updateAll, mem_foldl_heads]
  refine or_congr_right ?_
  simp only [List.mem_filter, decide_eq_true_eq, connections, List.mem_flatMap, List.mem_map,
    Linked]
  constructor
  · rintro ⟨_, ⟨⟨vertex, member, tail, isTail, rfl⟩, rfl⟩, isHead⟩
    exact ⟨vertex, member, isTail, List.mem_toFinset.mp isHead⟩
  · rintro ⟨vertex, member, isTail, isHead⟩
    exact ⟨_, ⟨⟨vertex, member, source, isTail, rfl⟩, rfl⟩, List.mem_toFinset.mpr isHead⟩

theorem mem_keys_mergeGraph (jobs : JobGraph) (graph : List (Delayable × List Delayable))
    (job : ℕ) :
    job ∈ (jobs.mergeGraph graph).keys ↔
      job ∈ jobs.keys ∨ ∃ vertex ∈ graph.map Prod.fst, job ∈ vertex.tail := by
  rw [mergeGraph, Dict.mem_keys_updateAll]
  refine or_congr_right ?_
  simp only [connections, List.mem_flatMap, List.mem_map]
  constructor
  · rintro ⟨_, ⟨vertex, member, tail, isTail, rfl⟩, rfl⟩
    exact ⟨vertex.1, ⟨vertex, member, rfl⟩, isTail⟩
  · rintro ⟨_, ⟨vertex, member, rfl⟩, isTail⟩
    exact ⟨_, ⟨vertex, member, job, isTail, rfl⟩, rfl⟩

/-- What merging the graphs of some objects adds to a graph of jobs. -/
theorem foldl_merge {β : Type} (graphs : β → List (Delayable × List Delayable)) (list : List β)
    (jobs : JobGraph) (source target : ℕ) :
    (target ∈ (list.foldl (fun jobs item => jobs.mergeGraph (graphs item)) jobs).neighbours source ↔
        target ∈ jobs.neighbours source ∨ ∃ item ∈ list, Linked (graphs item) source target) ∧
      (source ∈ (list.foldl (fun jobs item => jobs.mergeGraph (graphs item)) jobs).keys ↔
        source ∈ jobs.keys ∨
          ∃ item ∈ list, ∃ vertex ∈ (graphs item).map Prod.fst, source ∈ vertex.tail) := by
  induction list generalizing jobs with
  | nil => simp
  | cons item list induction =>
      obtain ⟨edges, keys⟩ := induction (jobs.mergeGraph (graphs item))
      rw [List.foldl_cons, edges, keys, mem_neighbours_mergeGraph, mem_keys_mergeGraph]
      simp only [List.mem_cons, exists_eq_or_imp, or_assoc, and_self]

theorem foldl_mergeVertices (order : List Delayable) (jobs : JobGraph) :
    order.foldl mergeVertices jobs =
      (order.flatMap Delayable.vertices).foldl (fun jobs vertex => jobs.mergeGraph vertex.graph)
        jobs := by
  rw [List.foldl_flatMap]
  rfl

/-- The graph that is built is merged from the small graphs of all objects reached. -/
theorem connectGraphs_spec {delayable : Delayable} (distinct : delayable.Distinct)
    (source target : ℕ) :
    (target ∈ (connectGraphs delayable).neighbours source ↔
        ∃ object, delayable.Reached object ∧ Linked object.graph source target) ∧
      (source ∈ (connectGraphs delayable).keys ↔
        ∃ object, delayable.Reached object ∧ ∃ vertex ∈ object.vertices, source ∈ vertex.tail) := by
  have closed (object : Delayable) (member : object ∈ delayable.objects) (vertex : Delayable)
      (inside : vertex ∈ object.vertices) : vertex ∈ delayable.objects :=
    Delayable.objects_trans member (Delayable.vertices_objects inside)
  have identified (left : Delayable) (inLeft : left ∈ delayable.objects) (right : Delayable)
      (inRight : right ∈ delayable.objects) (same : left.id = right.id) : left = right :=
    List.inj_on_of_nodup_map distinct inLeft inRight same
  obtain ⟨order, run, reached⟩ :=
    visit_reachable mergeVertices closed identified
      (1 + (delayable.objects.map fun object => object.vertices.length).sum)
      (mergeGraph ∅ delayable.graph) delayable (Delayable.mem_objects_self delayable)
      (by simp [unseen])
  have merged (property : Delayable → Prop) :
      (property delayable ∨ ∃ vertex ∈ order.flatMap Delayable.vertices, property vertex) ↔
        ∃ object, delayable.Reached object ∧ property object := by
    constructor
    · rintro (here | ⟨vertex, member, holds⟩)
      · exact ⟨delayable, .refl, here⟩
      · obtain ⟨current, visited, follows⟩ := List.mem_flatMap.mp member
        exact ⟨vertex, ((reached current).mp visited).tail follows, holds⟩
    · rintro ⟨object, path, holds⟩
      obtain rfl | ⟨current, path, follows⟩ := path.cases_tail
      · exact Or.inl holds
      · exact Or.inr ⟨object, List.mem_flatMap.mpr ⟨current, (reached current).mpr path, follows⟩,
          holds⟩
  have built := foldl_merge Delayable.graph (order.flatMap Delayable.vertices)
    (mergeGraph ∅ delayable.graph) source target
  rw [← foldl_mergeVertices, ← run] at built
  refine ⟨built.1.trans ?_, built.2.trans ?_⟩
  · rw [mem_neighbours_mergeGraph, ← merged fun object => Linked object.graph source target]
    simp [neighbours]
  · rw [mem_keys_mergeGraph]
    refine Iff.trans ?_ (merged fun object => ∃ vertex ∈ object.vertices, source ∈ vertex.tail)
    exact or_congr_left (or_iff_right List.not_mem_nil)

end JobGraph

theorem linked_append {first second : List (Delayable × List Delayable)} {source target : ℕ} :
    Linked (first ++ second) source target ↔
      Linked first source target ∨ Linked second source target := by
  simp only [Linked, List.mem_append, or_and_right, exists_or]

theorem not_linked_children {next : List Delayable} {source target : ℕ} :
    ¬ Linked (next.map fun child => (child, [])) source target := by
  rintro ⟨_, member, -, isHead⟩
  obtain ⟨child, -, rfl⟩ := List.mem_map.mp member
  exact List.not_mem_nil isHead

namespace Delayable

theorem mem_network_ends (delayable : Delayable) (node : ℕ) :
    (node ∈ delayable.network.heads ↔ node ∈ delayable.head) ∧
      (node ∈ delayable.network.tails ↔ node ∈ delayable.tail) := by
  induction delayable using Delayable.induct with
  | job id next inNext => simp [network, single, head, tail]
  | chain id first rest next inFirst inRest inNext =>
      refine ⟨inFirst.2, ?_⟩
      rw [network, tail]
      change node ∈ lastHeads first.network (networks rest) ↔ _
      replace inFirst := inFirst.1
      clear inNext
      induction rest generalizing first with
      | nil => exact inFirst
      | cons element rest induction =>
          rw [networks, lastHeads, headLast]
          exact induction element (fun other member => inRest other (List.mem_cons_of_mem _ member))
            (inRest element List.mem_cons_self).1
  | group id elements next inElements inNext =>
      rw [network, head, tail, headAll_eq, tailAll_eq, List.mem_flatMap, List.mem_flatMap]
      change (node ∈ (alongside (networks elements)).heads ↔ _) ∧
        (node ∈ (alongside (networks elements)).tails ↔ _)
      rw [mem_alongside_heads, mem_alongside_tails, networks_eq]
      simp only [List.mem_map, exists_exists_and_eq_and]
      exact ⟨exists_congr fun element => and_congr_right fun member =>
          (inElements element member).1,
        exists_congr fun element => and_congr_right fun member => (inElements element member).2⟩

theorem mem_alongside_head {elements : List Delayable} {node : ℕ} :
    node ∈ (alongside (networks elements)).heads ↔ node ∈ headAll elements := by
  rw [mem_alongside_heads, networks_eq, headAll_eq, List.mem_flatMap]
  simp only [List.mem_map, exists_exists_and_eq_and]
  exact exists_congr fun element => and_congr_right fun _ => (mem_network_ends element node).1

theorem alongside_networks_edge {elements : List Delayable} {source target : ℕ} :
    (alongside (networks elements)).edge source target ↔
      ∃ element ∈ elements, element.network.edge source target := by
  rw [alongside_edge, networks_eq]
  simp only [List.mem_map, exists_exists_and_eq_and]

/-- The edges of a chain: within its elements, from each element to the next, and from the last to
what is attached to the chain. -/
theorem path_networks_edge {first : Delayable} {rest next : List Delayable} {source target : ℕ} :
    ((path first.network (networks rest)).edge source target ∨
        (source ∈ (path first.network (networks rest)).tails ∧ target ∈ headAll next)) ↔
      Linked (chainGraph first rest next) source target ∨
        ∃ element ∈ first :: rest, element.network.edge source target := by
  induction rest generalizing first with
  | nil =>
      simp only [networks, path, chainGraph, Linked, List.mem_singleton, exists_eq_left,
        (mem_network_ends first source).2]
      exact or_comm
  | cons element rest induction =>
      have induction := @induction element
      have enters : target ∈ (path element.network (networks rest)).heads ↔
          target ∈ headAll [element] := by
        rw [path_heads, (mem_network_ends element target).1, headAll, headAll, List.append_nil]
      have links : Linked (chainGraph first (element :: rest) next) source target ↔
          (source ∈ first.tail ∧ target ∈ headAll [element]) ∨
            Linked (chainGraph element rest next) source target := by
        simp only [chainGraph, Linked, List.mem_cons, exists_eq_or_imp]
      have tails : (path first.network (element.network :: networks rest)).tails =
          (path element.network (networks rest)).tails := rfl
      rw [links, networks, tails, path, andThen, join_edge, enters,
        (mem_network_ends first source).2,
        List.exists_mem_cons_iff, or_or_or_comm, ← induction]
      grind

/-- An edge of a delayable comes from its small graph or from one of its parts. -/
theorem network_edge (delayable : Delayable) (source target : ℕ) :
    delayable.network.edge source target ↔
      Linked delayable.graph source target ∨
        ∃ part ∈ delayable.parts, part.network.edge source target := by
  cases delayable with
  | job id next =>
      rw [network, graph, parts, ← alongside_networks_edge]
      rw [attach_edge, mem_alongside_head,
        or_iff_right (show ¬ (single id).edge source target from not_false)]
      have links : Linked ((job id next, next) :: next.map fun child => (child, [])) source target ↔
          source ∈ (single id).tails ∧ target ∈ headAll next := by
        rw [← List.singleton_append, linked_append, or_iff_left not_linked_children]
        simp [Linked, tail, single]
      rw [links]
      exact or_comm
  | chain id first rest next =>
      have inner := @path_networks_edge first rest next source target
      have ends : (path first.network (networks rest)).edge source target =
          (swapped first.network (networks rest)).edge source target := rfl
      rw [network, graph, parts, linked_append, or_iff_left not_linked_children, attach_edge,
        mem_alongside_head, ← ends]
      simp only [List.mem_append, or_and_right, exists_or]
      rw [← @alongside_networks_edge next, ← @or_assoc (Linked _ _ _), ← inner, or_assoc]
      exact or_congr_right or_comm
  | group id elements next =>
      rw [network, graph, parts, linked_append]
      simp only [List.mem_append, or_and_right, exists_or]
      have parents : Linked (elements.map fun parent => (parent, next)) source target ↔
          source ∈ (alongside (networks elements)).tails ∧ target ∈ headAll next := by
        rw [mem_alongside_tails, networks_eq]
        simp [Linked, (mem_network_ends _ source).2, ← and_assoc]
      have children : ¬ Linked (if elements.isEmpty then [] else
          next.map fun child => (child, [])) source target := by
        split
        · rintro ⟨_, member, -⟩
          exact List.not_mem_nil member
        · exact not_linked_children
      rw [← alongside_networks_edge, ← alongside_networks_edge, attach_edge, mem_alongside_head,
        or_iff_left children, parents, ← or_assoc]
      exact or_comm

/-- The edges of a delayable are those of the small graphs of its objects. -/
theorem network_edge_iff (delayable : Delayable) (source target : ℕ) :
    delayable.network.edge source target ↔
      ∃ object ∈ delayable.objects, Linked object.graph source target := by
  induction delayable using inductParts with
  | step delayable induction =>
      rw [network_edge]
      constructor
      · rintro (linked | ⟨part, listed, edge⟩)
        · exact ⟨delayable, mem_objects_self delayable, linked⟩
        · obtain ⟨object, member, linked⟩ := (induction part listed).mp edge
          exact ⟨object, mem_objects.mpr (Or.inr ⟨part, listed, member⟩), linked⟩
      · rintro ⟨object, member, linked⟩
        obtain rfl | ⟨part, listed, member⟩ := mem_objects.mp member
        · exact Or.inl linked
        · exact Or.inr ⟨part, listed, (induction part listed).mpr ⟨object, member, linked⟩⟩

/-- A group without elements has no jobs attached to it. -/
def keepsNext : Delayable → Bool
  | group _ [] next => (objectsAll next).all fun object => object.jobId?.isNone
  | _ => true

/-- Everything that was attached to a group without elements has no jobs. -/
def kept (delayable : Delayable) : Bool := delayable.objects.all keepsNext

theorem kept_part {delayable part : Delayable} (kept : delayable.kept = true)
    (listed : part ∈ delayable.parts) : part.kept = true := by
  rw [Delayable.kept, List.all_eq_true] at kept ⊢
  intro object member
  exact kept object (mem_objects.mpr (Or.inr ⟨part, listed, member⟩))

/-- Where nothing is lost, an object with a job is reached. -/
theorem reached_of_job {delayable object : Delayable} {node : ℕ} (kept : delayable.kept = true)
    (member : object ∈ delayable.objects) (job : node ∈ object.jobs) :
    delayable.Reached object := by
  induction delayable using inductParts with
  | step delayable induction =>
      obtain rfl | ⟨part, listed, inPart⟩ := mem_objects.mp member
      · exact .refl
      · refine .head ?_ (induction part listed (kept_part kept listed) inPart)
        cases delayable with
        | job id next =>
            rw [vertices_job]
            exact List.mem_cons_of_mem _ listed
        | chain id first rest next => exact mem_vertices_chain.mpr listed
        | group id elements next =>
            obtain inside | attached := List.mem_append.mp listed
            · exact mem_vertices_group.mpr (Or.inl inside)
            · refine mem_vertices_group.mpr (Or.inr ⟨?_, attached⟩)
              rintro rfl
              rw [Delayable.kept, List.all_eq_true] at kept
              have none := kept _ (mem_objects_self _)
              rw [keepsNext, objectsAll_eq, List.all_eq_true] at none
              obtain ⟨next', found⟩ := mem_jobs.mp job
              have absent := none _
                (List.mem_flatMap.mpr ⟨part, attached, objects_trans inPart found⟩)
              contradiction

theorem jobs_of_tail {delayable : Delayable} {node : ℕ} (tail : node ∈ delayable.tail) :
    node ∈ delayable.jobs := by
  rw [← (mem_network_ends delayable node).2] at tail
  exact mem_jobs.mpr (mem_network_all.mp
    (delayable.network.own_all (delayable.network.tails_own tail)))

theorem jobs_trans {delayable object : Delayable} {node : ℕ} (member : object ∈ delayable.objects)
    (job : node ∈ object.jobs) : node ∈ delayable.jobs := by
  obtain ⟨next, found⟩ := mem_jobs.mp job
  exact mem_jobs.mpr ⟨next, objects_trans member found⟩

end Delayable

namespace Delayable

/-- Heads and tails are jobs that are reached. -/
theorem reached_of_end {delayable : Delayable} {node : ℕ}
    (isEnd : node ∈ delayable.head ∨ node ∈ delayable.tail) :
    ∃ next, delayable.Reached (job node next) := by
  revert isEnd
  induction delayable using Delayable.induct with
  | job id next _ =>
      intro same
      obtain rfl : node = id := by simpa [head, Delayable.tail] using same
      exact ⟨next, .refl⟩
  | chain id first rest next inFirst inRest _ =>
      have element (inner : Delayable) (member : inner ∈ first :: rest)
          (isEnd : node ∈ inner.head ∨ node ∈ inner.tail) :
          ∃ after, (chain id first rest next).Reached (job node after) := by
        obtain ⟨after, reached⟩ : ∃ after, inner.Reached (job node after) := by
          obtain rfl | member := List.mem_cons.mp member
          · exact inFirst isEnd
          · exact inRest inner member isEnd
        exact ⟨after, .head (mem_vertices_chain.mpr (List.mem_append_left _ member)) reached⟩
      have last (first : Delayable) (isHead : node ∈ headLast first.head rest) :
          ∃ inner ∈ first :: rest, node ∈ inner.head := by
        clear element inFirst inRest
        induction rest generalizing first with
        | nil => exact ⟨first, List.mem_cons_self, isHead⟩
        | cons inner rest induction =>
            obtain ⟨found, member, isHead⟩ := induction inner isHead
            exact ⟨found, List.mem_cons_of_mem _ member, isHead⟩
      rintro (isTail | isHead)
      · exact element first List.mem_cons_self (Or.inr isTail)
      · obtain ⟨inner, member, isHead⟩ := last first isHead
        exact element inner member (Or.inl isHead)
  | group id elements next inElements _ =>
      have element (inner : Delayable) (member : inner ∈ elements)
          (isEnd : node ∈ inner.head ∨ node ∈ inner.tail) :
          ∃ after, (group id elements next).Reached (job node after) := by
        obtain ⟨after, reached⟩ := inElements inner member isEnd
        exact ⟨after, .head (mem_vertices_group.mpr (Or.inl member)) reached⟩
      rw [head, Delayable.tail, headAll_eq, tailAll_eq, List.mem_flatMap, List.mem_flatMap]
      rintro (⟨inner, member, isHead⟩ | ⟨inner, member, isTail⟩)
      · exact element inner member (Or.inl isHead)
      · exact element inner member (Or.inr isTail)

/-- Neighbours of a vertex are vertices. -/
theorem neighbour_vertices {delayable child : Delayable} {vertex : Delayable × List Delayable}
    (listed : vertex ∈ delayable.graph) (member : child ∈ vertex.2) :
    child ∈ delayable.vertices := by
  cases delayable with
  | job id next =>
      rw [vertices_job]
      obtain rfl | other := List.mem_cons.mp listed
      · exact List.mem_cons_of_mem _ member
      · obtain ⟨_, _, rfl⟩ := List.mem_map.mp other
        exact (List.not_mem_nil member).elim
  | chain id first rest next =>
      rw [mem_vertices_chain]
      obtain inChain | other := List.mem_append.mp listed
      · clear listed
        induction rest generalizing first with
        | nil =>
            obtain rfl := List.mem_singleton.mp inChain
            exact List.mem_append_right _ member
        | cons element rest induction =>
            obtain rfl | later := List.mem_cons.mp inChain
            · obtain rfl := List.mem_singleton.mp member
              simp
            · exact List.mem_cons_of_mem _ (induction element later)
      · obtain ⟨_, _, rfl⟩ := List.mem_map.mp other
        exact (List.not_mem_nil member).elim
  | group id elements next =>
      rw [mem_vertices_group]
      obtain parent | other := List.mem_append.mp listed
      · obtain ⟨element, present, rfl⟩ := List.mem_map.mp parent
        exact Or.inr ⟨List.ne_nil_of_mem present, member⟩
      · split at other
        · exact (List.not_mem_nil other).elim
        · obtain ⟨_, _, rfl⟩ := List.mem_map.mp other
          exact (List.not_mem_nil member).elim

/-- Everything reached but the object itself is reached from a part that is a vertex. -/
theorem reached_part {delayable object : Delayable} (reached : delayable.Reached object) :
    object = delayable ∨
      ∃ part ∈ delayable.parts, part ∈ delayable.vertices ∧ part.Reached object := by
  induction reached using ReflTransGen.head_induction_on with
  | refl => exact Or.inl rfl
  | head edge path induction =>
      obtain rfl | part := mem_vertices edge
      · exact induction
      · exact Or.inr ⟨_, part, edge, path⟩

/-- Parts with distinct objects are themselves distinct and share no job with each other or with
the object. -/
theorem distinct_parts {delayable : Delayable} (distinct : delayable.Distinct) :
    (∀ part ∈ delayable.parts, part.Distinct) ∧
      (∀ part ∈ delayable.parts, delayable.id ∉ part.objects.map id) ∧
      ∀ part ∈ delayable.parts, ∀ other ∈ delayable.parts, ∀ node,
        node ∈ part.objects.map id → node ∈ other.objects.map id → part = other := by
  rw [Distinct, objects_eq, List.map_cons, List.nodup_cons, List.map_flatMap,
    List.nodup_flatMap] at distinct
  obtain ⟨fresh, each, apart⟩ := distinct
  refine ⟨each, fun part listed member => fresh (List.mem_flatMap.mpr ⟨part, listed, member⟩), ?_⟩
  intro part listed other also node inPart inOther
  by_contra differ
  have symmetric : Std.Symm (Function.onFun List.Disjoint fun part : Delayable =>
      part.objects.map id) := ⟨fun _ _ apart => apart.symm⟩
  exact apart.forall listed also differ inPart inOther

/-- Where every job is reached, nothing is lost. -/
theorem kept_of_reached {delayable : Delayable} (distinct : delayable.Distinct)
    (reached : ∀ node ∈ delayable.jobs, ∃ next, delayable.Reached (job node next)) :
    delayable.kept = true := by
  induction delayable using inductParts with
  | step delayable induction =>
      obtain ⟨each, fresh, unique⟩ := distinct_parts distinct
      have partKept (part : Delayable) (listed : part ∈ delayable.parts) : part.kept = true := by
        refine induction part listed (each part listed) fun node member => ?_
        obtain ⟨later, inside⟩ := mem_jobs.mp member
        have inPart : node ∈ part.objects.map id := List.mem_map.mpr ⟨_, inside, rfl⟩
        have whole : node ∈ delayable.jobs :=
          mem_jobs.mpr ⟨later, mem_objects.mpr (Or.inr ⟨part, listed, inside⟩)⟩
        obtain ⟨next, path⟩ := reached node whole
        obtain rfl | ⟨other, also, -, path⟩ := reached_part path
        · exact absurd inPart (fresh part listed)
        · have inOther : node ∈ other.objects.map id :=
            List.mem_map.mpr ⟨_, reached_objects path, rfl⟩
          exact ⟨next, unique part listed other also node inPart inOther ▸ path⟩
      rw [kept, List.all_eq_true]
      intro object member
      obtain rfl | ⟨part, listed, inside⟩ := mem_objects.mp member
      · cases object with
        | job id next => rfl
        | chain id first rest next => rfl
        | group id elements next =>
            cases elements with
            | cons element elements => rfl
            | nil =>
                rw [keepsNext, List.all_eq_true]
                intro inner attached
                cases inner with
                | chain id first rest next => rfl
                | group id elements next => rfl
                | job node later =>
                    have whole : node ∈ (group id [] next).jobs :=
                      mem_jobs.mpr ⟨later, by simp [objects, objectsAll, attached]⟩
                    obtain ⟨after, path⟩ := reached node whole
                    obtain same | ⟨part, -, vertex, -⟩ := reached_part path
                    · contradiction
                    · simp [mem_vertices_group] at vertex
      · have partKept := partKept part listed
        rw [kept, List.all_eq_true] at partKept
        exact partKept object inside

end Delayable

namespace JobGraph

variable {delayable : Delayable} (distinct : delayable.Distinct)
include distinct

/-- The vertices of the graph are jobs of the delayable. -/
theorem connectGraphs_jobs {node : ℕ} (vertex : node ∈ (connectGraphs delayable).keys) :
    node ∈ delayable.jobs := by
  obtain ⟨object, reached, inner, listed, tail⟩ :=
    ((connectGraphs_spec distinct node node).2).mp vertex
  exact Delayable.jobs_trans (Delayable.objects_trans (Delayable.reached_objects reached)
    (Delayable.vertices_objects listed)) (Delayable.jobs_of_tail tail)

/-- Where every job is a vertex of the graph, nothing is lost. -/
theorem kept_of_keys (vertices : ∀ node ∈ delayable.jobs, node ∈ (connectGraphs delayable).keys) :
    delayable.kept = true := by
  refine Delayable.kept_of_reached distinct fun node job => ?_
  obtain ⟨object, reached, inner, listed, tail⟩ :=
    ((connectGraphs_spec distinct node node).2).mp (vertices node job)
  obtain ⟨next, path⟩ := Delayable.reached_of_end (Or.inr tail)
  exact ⟨next, (reached.tail listed).trans path⟩

/-- Every edge of the graph is an edge of the delayable's network. -/
theorem connectGraphs_edge {source target : ℕ}
    (edge : target ∈ (connectGraphs delayable).neighbours source) :
    delayable.network.edge source target := by
  obtain ⟨object, reached, linked⟩ := ((connectGraphs_spec distinct source target).1).mp edge
  exact (Delayable.network_edge_iff delayable source target).mpr
    ⟨object, Delayable.reached_objects reached, linked⟩

/-- Every edge of the graph ends at a vertex. -/
theorem connectGraphs_closed {source target : ℕ}
    (edge : target ∈ (connectGraphs delayable).neighbours source) :
    target ∈ (connectGraphs delayable).keys := by
  obtain ⟨object, reached, vertex, listed, -, isHead⟩ :=
    ((connectGraphs_spec distinct source target).1).mp edge
  rw [Delayable.headAll_eq, List.mem_flatMap] at isHead
  obtain ⟨child, member, isHead⟩ := isHead
  obtain ⟨next, path⟩ := Delayable.reached_of_end (Or.inl isHead)
  refine ((connectGraphs_spec distinct target target).2).mpr
    ⟨.job target next, (reached.tail (Delayable.neighbour_vertices listed member)).trans path,
      .job target next, ?_, ?_⟩
  · rw [Delayable.vertices_job]
    exact List.mem_cons_self
  · rw [Delayable.tail]
    exact List.mem_cons_self

variable (kept : delayable.kept = true)
include kept

/-- Where nothing is lost, every job is a vertex of the graph. -/
theorem connectGraphs_keys (node : ℕ) :
    node ∈ (connectGraphs delayable).keys ↔ node ∈ delayable.jobs := by
  refine ⟨connectGraphs_jobs distinct, fun job => ?_⟩
  obtain ⟨next, member⟩ := Delayable.mem_jobs.mp job
  have here : node ∈ (Delayable.job node next).jobs :=
    Delayable.mem_jobs.mpr ⟨next, Delayable.mem_objects_self _⟩
  refine ((connectGraphs_spec distinct node node).2).mpr
    ⟨_, Delayable.reached_of_job kept member here, .job node next, ?_, ?_⟩
  · rw [Delayable.vertices_job]
    exact List.mem_cons_self
  · rw [Delayable.tail]
    exact List.mem_cons_self

/-- Where nothing is lost, the graph has the edges of the delayable's network. -/
theorem mem_connectGraphs (source target : ℕ) :
    target ∈ (connectGraphs delayable).neighbours source ↔
      delayable.network.edge source target := by
  refine ⟨connectGraphs_edge distinct, fun edge => ?_⟩
  obtain ⟨object, member, linked⟩ := (Delayable.network_edge_iff delayable source target).mp edge
  obtain ⟨vertex, listed, tail, -⟩ := id linked
  refine ((connectGraphs_spec distinct source target).1).mpr ⟨object, ?_, linked⟩
  exact Delayable.reached_of_job kept member (Delayable.jobs_trans
    (Delayable.vertices_objects (List.mem_map_of_mem listed)) (Delayable.jobs_of_tail tail))

end JobGraph

end OdooConnector.Queue
