import OdooConnector.Queue.DelayGraph
import OdooConnector.Queue.RunJob

/-!
# Graphs that are delayed

Whatever is built of chains and groups, the jobs that `delay` stores are connected in both
directions and in no cycle, belong to one graph, and wait unless they depend on nothing.
-/

namespace OdooConnector.Queue

/-- A generated job with its other properties, and the jobs in memory that it depends on. -/
def GraphJob.toJob (job : GraphJob) (properties : StoredJob) (parents : List GraphJob) : Job where
  uuid := job.uuid
  values :=
    { properties with
      identityKey := job.identityKey
      state := job.state
      graphUuid := job.graphUuid
      dependsOn := job.dependsOn
      reverseDependsOn := job.reverseDependsOn }
  parents := parents.map fun parent => (parent.uuid, parent.state)
  children := job.reverseDependsOn

def Job.graphJob (job : Job) : GraphJob where
  uuid := job.uuid
  identityKey := job.values.identityKey
  state := job.values.state
  graphUuid := job.values.graphUuid
  dependsOn := job.values.dependsOn
  reverseDependsOn := job.values.reverseDependsOn

namespace JobExpression

variable (expression : JobExpression) (orders : SetOrders (JobGraph.connectGraphs expression.build))
  (uuid : ℕ → String) (keys : ℕ → Option IdentityKey) (graphUuid : String)
  (properties : ℕ → StoredJob)

/-- The vertices that a vertex depends on. -/
def parents (vertex : ℕ) : List ℕ :=
  orders.vertices.filter fun parent =>
    vertex ∈ (JobGraph.connectGraphs expression.build).neighbours parent

/-- The identifier of the graph, which a single job has not. -/
def chosenUuid : Option String := if orders.vertices.length ≤ 1 then none else some graphUuid

def generatedJob (vertex : ℕ) : GraphJob :=
  connectedJob (JobGraph.connectGraphs expression.build) orders uuid keys
    (chosenUuid expression orders graphUuid) vertex

/-- The job of a vertex when all edges were added. -/
def vertexJob (vertex : ℕ) : Job :=
  (generatedJob expression orders uuid keys graphUuid vertex).toJob (properties vertex)
    ((parents expression orders vertex).map (generatedJob expression orders uuid keys graphUuid))

/-- The place of a job in a topological order. -/
def place (job : String) : ℕ :=
  (((JobGraph.connectGraphs expression.build).topologicalSort orders.roots
    orders.neighbours).map uuid).idxOf job

variable {expression orders uuid keys graphUuid properties} {vertex other : ℕ}

theorem mem_vertices_iff :
    vertex ∈ orders.vertices ↔ vertex ∈ (JobGraph.connectGraphs expression.build).vertices := by
  rw [← orders.iteratesVertices.2, List.mem_toFinset]

theorem edge_vertices (orders : SetOrders (JobGraph.connectGraphs expression.build))
    (edge : other ∈ (JobGraph.connectGraphs expression.build).neighbours vertex) :
    vertex ∈ orders.vertices ∧ other ∈ orders.vertices := by
  constructor
  · rw [mem_vertices_iff]
    by_contra absent
    rw [JobGraph.neighbours_eq_empty fun key => absent (List.mem_toFinset.mpr key)] at edge
    exact Finset.notMem_empty _ edge
  · rw [mem_vertices_iff]
    exact List.mem_toFinset.mpr (JobGraph.connectGraphs_closed expression.build_distinct edge)

theorem mem_parents : other ∈ parents expression orders vertex ↔
    vertex ∈ (JobGraph.connectGraphs expression.build).neighbours other := by
  rw [parents, List.mem_filter, decide_eq_true_eq]
  exact and_iff_right_of_imp fun edge => (edge_vertices orders edge).1

theorem mem_neighbours_iff : other ∈ orders.neighbours vertex ↔
    other ∈ (JobGraph.connectGraphs expression.build).neighbours vertex := by
  rw [← (orders.iteratesNeighbours vertex).2, List.mem_toFinset]

theorem dependsOn_vertexJob :
    (vertexJob expression orders uuid keys graphUuid properties vertex).values.dependsOn =
      (parents expression orders vertex).map uuid := rfl

theorem reverseDependsOn_vertexJob :
    (vertexJob expression orders uuid keys graphUuid properties vertex).values.reverseDependsOn =
      (orders.neighbours vertex).map uuid := rfl

theorem acyclic (node : ℕ) :
    ¬ Relation.TransGen (JobGraph.connectGraphs expression.build).Edge node node := fun cycle =>
  (Delayable.known expression.build expression.build_distinct).acyclic node
    (Relation.TransGen.mono
      (fun _ _ edge => JobGraph.connectGraphs_edge expression.build_distinct edge) _ _ cycle)

theorem place_lt (injective : Function.Injective uuid)
    (edge : other ∈ (JobGraph.connectGraphs expression.build).neighbours vertex) :
    place expression orders uuid (uuid vertex) < place expression orders uuid (uuid other) := by
  obtain ⟨distinct, listed, ordered⟩ := JobGraph.topologicalSort_spec acyclic
    (fun _ _ edge => List.mem_toFinset.mpr
      (JobGraph.connectGraphs_closed expression.build_distinct edge))
    orders.iteratesRoots orders.iteratesNeighbours
  have member := (listed other).mpr (mem_vertices_iff.mp (edge_vertices orders edge).2)
  obtain ⟨before, after, split⟩ := List.append_of_mem member
  have earlier := ordered before other after split vertex (.single edge)
  rw [split] at distinct
  have fresh : other ∉ before := by
    intro inside
    exact (List.nodup_append.mp distinct).2.2 other inside other List.mem_cons_self rfl
  rw [place, place, split, List.map_append, List.map_cons,
    List.idxOf_append_of_mem (List.mem_map_of_mem earlier),
    List.idxOf_append_of_notMem fun inside =>
      fresh ((List.mem_map_of_injective injective).mp inside),
    List.idxOf_cons_self, Nat.add_zero]
  exact List.idxOf_lt_length_of_mem (List.mem_map_of_mem earlier)

/-- A job has a graph where another one depends on it. -/
theorem chosenUuid_of_edge
    (edge : other ∈ (JobGraph.connectGraphs expression.build).neighbours vertex) :
    chosenUuid expression orders graphUuid = some graphUuid := by
  obtain ⟨first, second⟩ := edge_vertices orders edge
  have differ : vertex ≠ other := by
    rintro rfl
    exact acyclic vertex (.single edge)
  refine if_neg fun few => differ ?_
  obtain none | ⟨single, only⟩ : orders.vertices = [] ∨ ∃ single, orders.vertices = [single] := by
    match orders.vertices, few with
    | [], _ => exact .inl rfl
    | [single], _ => exact .inr ⟨single, rfl⟩
  · rw [none] at first
    cases first
  · rw [only, List.mem_singleton] at first second
    exact first.trans second.symm

variable (expression orders uuid keys graphUuid properties)

/-- The graph that `delay` stores. -/
def delayedGraph (injective : Function.Injective uuid) : NewGraph where
  jobs := orders.vertices.map (vertexJob expression orders uuid keys graphUuid properties)
  nodup := by
    rw [List.map_map]
    exact orders.iteratesVertices.1.map injective
  read := by
    intro job member
    obtain ⟨vertex, -, rfl⟩ := List.mem_map.mp member
    refine ⟨?_, rfl⟩
    rw [dependsOn_vertexJob, vertexJob, GraphJob.toJob, List.map_map, List.map_map]
    rfl
  state := by
    intro job member
    obtain ⟨vertex, -, rfl⟩ := List.mem_map.mp member
    rfl
  closed := by
    intro job member other listed
    obtain ⟨vertex, -, rfl⟩ := List.mem_map.mp member
    rw [dependsOn_vertexJob, reverseDependsOn_vertexJob, ← List.map_append] at listed
    obtain ⟨next, among, rfl⟩ := List.mem_map.mp listed
    rw [List.map_map]
    refine List.mem_map_of_mem ?_
    rcases List.mem_append.mp among with parent | child
    · exact (edge_vertices orders (mem_parents.mp parent)).1
    · exact (edge_vertices orders (mem_neighbours_iff.mp child)).2
  mirrored := by
    intro child among parent among'
    obtain ⟨vertex, -, rfl⟩ := List.mem_map.mp among
    obtain ⟨other, -, rfl⟩ := List.mem_map.mp among'
    rw [dependsOn_vertexJob, reverseDependsOn_vertexJob]
    change uuid other ∈ _ ↔ uuid vertex ∈ _
    rw [List.mem_map_of_injective injective, List.mem_map_of_injective injective, mem_parents,
      mem_neighbours_iff]
  sameGraph := by
    intro child among parent among' depends
    obtain ⟨vertex, -, rfl⟩ := List.mem_map.mp among
    obtain ⟨other, -, rfl⟩ := List.mem_map.mp among'
    rw [dependsOn_vertexJob] at depends
    have edge := mem_parents.mp ((List.mem_map_of_injective injective).mp depends)
    refine ⟨rfl, ?_⟩
    exact (congrArg Option.isSome (chosenUuid_of_edge edge)).trans rfl
  acyclic := by
    refine ⟨place expression orders uuid, fun job member parent depends => ?_⟩
    obtain ⟨vertex, -, rfl⟩ := List.mem_map.mp member
    rw [dependsOn_vertexJob] at depends
    obtain ⟨other, listed, rfl⟩ := List.mem_map.mp depends
    exact place_lt injective (mem_parents.mp listed)

end JobExpression

/-- The jobs of a graph are stored where none has a key, or one has a key with which no stored job
waits. -/
def IsStored (vertices : List ℕ) (keys : ℕ → Option IdentityKey) (direct : Bool)
    (stored : List GraphJob) : Prop :=
  direct = false ∧ ((∀ vertex ∈ vertices, hasKey (keys vertex) = false) ∨
    ∃ vertex ∈ vertices, hasKey (keys vertex) = true ∧
      ∀ job ∈ stored, ¬ WaitsWithKey (jobKey (keys vertex)) job)

/-- What is built of chains and groups is delayed as a graph whose parts fit together, or nothing of
it is stored. -/
theorem delay_stores_graph (expression : JobExpression) (keys : ℕ → Option IdentityKey)
    (direct : Bool) (stored : List GraphJob) (uuids : Uuids stored)
    (orders : SetOrders (JobGraph.connectGraphs expression.build)) (properties : ℕ → StoredJob)
    (after : Delayed)
    (delayed : delay expression.build keys direct stored uuids orders = .ok after) :
    (IsStored orders.vertices keys direct stored ∧ after.stored = stored ++
      (expression.delayedGraph orders uuids.uuid keys uuids.graphUuid properties
        uuids.injective).jobs.map Job.graphJob) ∨
    (¬ IsStored orders.vertices keys direct stored ∧ after.stored = stored) := by
  have chosen (graph : Option String)
      (same : ensureSameGraphUuid uuids.graphUuid orders.vertices = .ok graph) :
      graph = expression.chosenUuid orders uuids.graphUuid := by
    rw [JobExpression.chosenUuid]
    generalize orders.vertices = vertices at same
    rcases vertices with - | ⟨vertex, - | ⟨next, rest⟩⟩
    · cases same
    · exact (Except.ok.inj same).symm
    · exact (Except.ok.inj same).symm
  rw [delay] at delayed
  cases found : ensureSameGraphUuid uuids.graphUuid orders.vertices with
  | error message =>
      rw [found] at delayed
      cases delayed
  | ok graph =>
      rw [found] at delayed
      obtain rfl := chosen graph found
      cases direct with
      | true =>
          obtain rfl := Except.ok.inj delayed
          exact .inr ⟨fun fresh => absurd fresh.1 (by decide), rfl⟩
      | false =>
          simp only [bind, Except.bind, Bool.false_eq_true, if_false] at delayed
          rcases @existingMapping_cases keys (fun vertex => jobRecordWithSameIdentityKey stored
              (connectedJob (JobGraph.connectGraphs expression.build) orders uuids.uuid keys
                (expression.chosenUuid orders uuids.graphUuid) vertex)) orders.vertices with
            ⟨empty, cause⟩ | ⟨vertex, member, record, rest, first, keyed, -, known⟩
          · rw [empty] at delayed
            obtain rfl := Except.ok.inj delayed
            refine .inl ⟨⟨rfl, cause.imp_right ?_⟩, congrArg (stored ++ ·) ?_⟩
            · rintro ⟨vertex, member, keyed, fresh⟩
              exact ⟨vertex, member, keyed, jobRecord_eq_none_iff.mp fresh⟩
            · rw [JobExpression.delayedGraph, List.map_map]
              rfl
          · rw [first] at delayed
            obtain rfl := Except.ok.inj delayed
            refine .inr ⟨?_, rfl⟩
            rintro ⟨-, unkeyed | ⟨other, member', keyed', fresh⟩⟩
            · rw [unkeyed vertex member] at keyed
              cases keyed
            · exact known other member' keyed' (jobRecord_eq_none_iff.mpr fresh)

/-- `chain(a, b)` beside a job that waits with another key. -/
theorem chain_stores_graph : ∃ orders after,
    delay (JobExpression.build (.chain .delayable [.delayable])) (fun _ => none) false [waitingJob]
        lengthUuids orders = .ok after ∧
      ((IsStored orders.vertices (fun _ => none) false [waitingJob] ∧
        after.stored = [waitingJob] ++ (JobExpression.delayedGraph
          (.chain .delayable [.delayable]) orders lengthUuids.uuid (fun _ => none)
          lengthUuids.graphUuid (fun _ => plainJob) lengthUuids.injective).jobs.map Job.graphJob) ∨
      (¬ IsStored orders.vertices (fun _ => none) false [waitingJob] ∧
        after.stored = [waitingJob])) := by
  have iterates : JobGraph.Iterates [0, 1]
      (JobGraph.connectGraphs
        (JobExpression.build (.chain .delayable [.delayable]))).vertices := by
    exact ⟨by decide, by decide +kernel⟩
  have roots : JobGraph.Iterates [0] (JobGraph.connectGraphs
      (JobExpression.build (.chain .delayable [.delayable]))).rootVertices := by
    exact ⟨by decide, by decide +kernel⟩
  have neighbours (job : ℕ) : JobGraph.Iterates (JobGraph.neighbours (JobGraph.connectGraphs
      (JobExpression.build (.chain .delayable [.delayable]))) job).toList _ :=
    ⟨Finset.nodup_toList _, Finset.toList_toFinset _⟩
  refine ⟨⟨[0, 1], [0], _, iterates, roots, neighbours⟩, _, rfl, ?_⟩
  exact delay_stores_graph _ _ _ _ _ _ (fun _ => plainJob) _ rfl

end OdooConnector.Queue
