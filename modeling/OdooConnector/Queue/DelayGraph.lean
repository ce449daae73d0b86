import OdooConnector.Queue.FailedJob
import OdooConnector.Queue.JobMeaning

/-!
# Delaying a graph

`DelayableGraph.delay` builds a job for each vertex of the connected graph and stores all of them,
unless it finds a job with the same identity key for each vertex that has one.
-/

namespace OdooConnector.Queue

/-- The `identity_key` given to a delayable: a text or a function, here with what it computes for
the generated job. -/
inductive IdentityKey where
  | text (key : String)
  | function (computed : Option String)
  deriving DecidableEq

/-- A delayable with a key that Python takes for true. -/
def hasKey : Option IdentityKey → Bool
  | none => false
  | some (.text key) => key ≠ ""
  | some (.function _) => true

/-- `identity_key` of the generated job. -/
def jobKey : Option IdentityKey → Option String
  | none => none
  | some (.text key) => some key
  | some (.function computed) => computed

/-- A job, generated or stored. -/
structure GraphJob where
  uuid : String
  identityKey : Option String
  state : JobState
  graphUuid : Option String
  dependsOn : List String
  reverseDependsOn : List String
  deriving DecidableEq

/-- What `uuid4` gives to the generated jobs: identifiers that no other job has. -/
structure Uuids (stored : List GraphJob) where
  uuid : ℕ → String
  graphUuid : String
  injective : Function.Injective uuid
  fresh : ∀ vertex, ∀ job ∈ stored, job.uuid ≠ uuid vertex

/-- The orders in which the loops go through the sets of a graph. -/
structure SetOrders (graph : JobGraph) where
  vertices : List ℕ
  roots : List ℕ
  neighbours : ℕ → List ℕ
  iteratesVertices : JobGraph.Iterates vertices graph.vertices
  iteratesRoots : JobGraph.Iterates roots graph.rootVertices
  iteratesNeighbours : ∀ job, JobGraph.Iterates (neighbours job) (graph.neighbours job)

/-- What is left by `delay`: the stored jobs, the `_generated_job` of each vertex, and the jobs
executed directly. -/
structure Delayed where
  stored : List GraphJob
  generatedJob : ℕ → GraphJob
  executed : List ℕ

/-- A job waits to be run with a key. -/
def WaitsWithKey (key : Option String) (job : GraphJob) : Prop :=
  job.identityKey = key ∧
    (job.state = .waitDependencies ∨ job.state = .pending ∨ job.state = .enqueued)

instance (key : Option String) (job : GraphJob) : Decidable (WaitsWithKey key job) :=
  inferInstanceAs (Decidable (_ ∧ _))

/-- `job_record_with_same_identity_key`. -/
def jobRecordWithSameIdentityKey (stored : List GraphJob) (job : GraphJob) : Option GraphJob :=
  stored.find? fun record => WaitsWithKey job.identityKey record

/-- `_build_job` of a fresh delayable. -/
def buildJob (uuid : String) (key : Option IdentityKey) : GraphJob where
  uuid := uuid
  identityKey := jobKey key
  state := .pending
  graphUuid := none
  dependsOn := []
  reverseDependsOn := []

/-- `_ensure_same_graph_uuid` for fresh jobs: the identifier of the graph, and none for a single
job. -/
def ensureSameGraphUuid (graphUuid : String) : List ℕ → Except String (Option String)
  | [] => .error "Expecting jobs"
  | [_] => .ok none
  | _ => .ok (some graphUuid)

/-- `add_depends` for all edges at a job. None of the generated jobs is done. -/
def addDepends (parents children : List String) (job : GraphJob) : GraphJob :=
  { job with
    dependsOn := job.dependsOn ++ parents
    reverseDependsOn := job.reverseDependsOn ++ children
    state := if parents = [] then job.state else .waitDependencies }

/-- The loop that looks for jobs with the same key. It ends with an empty mapping at the first
vertex with a key for which there is none. -/
def existingMapping (keys : ℕ → Option IdentityKey) (existing : ℕ → Option GraphJob) :
    List ℕ → List (ℕ × GraphJob) → List (ℕ × GraphJob)
  | [], mapping => mapping
  | vertex :: vertices, mapping =>
      if !hasKey (keys vertex) then existingMapping keys existing vertices mapping
      else
        match existing vertex with
        | none => []
        | some record => existingMapping keys existing vertices (mapping ++ [(vertex, record)])

/-- The job of a vertex before dependencies are added. -/
def builtJob (uuid : ℕ → String) (keys : ℕ → Option IdentityKey) (graphUuid : Option String)
    (vertex : ℕ) : GraphJob :=
  { buildJob (uuid vertex) (keys vertex) with graphUuid := graphUuid }

/-- The job of a vertex with the dependencies of the graph. -/
def connectedJob (graph : JobGraph) (orders : SetOrders graph) (uuid : ℕ → String)
    (keys : ℕ → Option IdentityKey) (graphUuid : Option String) (vertex : ℕ) : GraphJob :=
  addDepends
    ((orders.vertices.filter fun parent => vertex ∈ graph.neighbours parent).map uuid)
    ((orders.neighbours vertex).map uuid) (builtJob uuid keys graphUuid vertex)

/-- `delay` of the graph of a delayable whose jobs are fresh. `direct` tells that
`_has_to_execute_directly` finds an environment in which jobs must run without delay. -/
def delay (delayable : Delayable) (keys : ℕ → Option IdentityKey) (direct : Bool)
    (stored : List GraphJob) (uuids : Uuids stored)
    (orders : SetOrders (JobGraph.connectGraphs delayable)) : Except String Delayed := do
  let graph := JobGraph.connectGraphs delayable
  let graphUuid ← ensureSameGraphUuid uuids.graphUuid orders.vertices
  if direct then
    return ⟨stored, builtJob uuids.uuid keys graphUuid,
      graph.topologicalSort orders.roots orders.neighbours⟩
  let generated := connectedJob graph orders uuids.uuid keys graphUuid
  match existingMapping keys (fun vertex => jobRecordWithSameIdentityKey stored (generated vertex))
      orders.vertices [] with
  | (vertex, existing) :: _ =>
      -- the loop over the mapping returns after its first step
      return ⟨stored, Function.update generated vertex existing, []⟩
  | [] => return ⟨stored ++ orders.vertices.map generated, generated, []⟩

/-- The job of a vertex is stored, and was not before. -/
def Delayed.NewlyStored (stored : List GraphJob) (after : Delayed) (vertex : ℕ) : Prop :=
  after.generatedJob vertex ∈ after.stored ∧
    ∀ job ∈ stored, job.uuid ≠ (after.generatedJob vertex).uuid

/-- A vertex refers to a job stored before that waits with its key. -/
def Delayed.RefersToExisting (stored : List GraphJob) (key : Option String) (after : Delayed)
    (vertex : ℕ) : Prop :=
  after.generatedJob vertex ∈ stored ∧ WaitsWithKey key (after.generatedJob vertex)

/-- Nothing but duplicates is dropped: a vertex without a key has a newly stored job, and a vertex
with a key has one or refers to a waiting job with its key. -/
def Delayed.DropsOnlyDuplicates (vertices : Finset ℕ) (keys : ℕ → Option IdentityKey)
    (stored : List GraphJob) (after : Delayed) : Prop :=
  ∀ vertex ∈ vertices, after.NewlyStored stored vertex ∨
    (hasKey (keys vertex) = true ∧ after.RefersToExisting stored (jobKey (keys vertex)) vertex)

/-- There are no jobs, or they are not executed directly and there is only one, or none has a key,
or one has a key with which no stored job waits. -/
def StoresOrRefers (vertices : Finset ℕ) (keys : ℕ → Option IdentityKey) (direct : Bool)
    (stored : List GraphJob) : Prop :=
  vertices = ∅ ∨ (direct = false ∧ ((∃ vertex, vertices = {vertex}) ∨
    (∀ vertex ∈ vertices, hasKey (keys vertex) = false) ∨
    ∃ vertex ∈ vertices, hasKey (keys vertex) = true ∧
      ∀ job ∈ stored, ¬ WaitsWithKey (jobKey (keys vertex)) job))

theorem jobRecord_eq_none_iff {stored : List GraphJob} {job : GraphJob} :
    jobRecordWithSameIdentityKey stored job = none ↔
      ∀ record ∈ stored, ¬ WaitsWithKey job.identityKey record := by
  simp only [jobRecordWithSameIdentityKey, List.find?_eq_none, decide_eq_true_eq]

theorem jobRecord_eq_some {stored : List GraphJob} {job record : GraphJob}
    (found : jobRecordWithSameIdentityKey stored job = some record) :
    record ∈ stored ∧ WaitsWithKey job.identityKey record := by
  have waits := List.find?_some found
  exact ⟨List.mem_of_find?_eq_some found, of_decide_eq_true waits⟩

section Mapping

variable {keys : ℕ → Option IdentityKey} {existing : ℕ → Option GraphJob}

/-- The mapping is empty when a vertex with a key has no existing job. -/
theorem existingMapping_of_fresh {vertices : List ℕ} {mapping : List (ℕ × GraphJob)} {vertex : ℕ}
    (member : vertex ∈ vertices) (keyed : hasKey (keys vertex) = true)
    (fresh : existing vertex = none) : existingMapping keys existing vertices mapping = [] := by
  induction vertices generalizing mapping with
  | nil => simp at member
  | cons other vertices induction =>
      rw [existingMapping]
      obtain rfl | later := List.mem_cons.mp member
      · simp [keyed, fresh]
      · split
        · exact induction later
        · split
          · rfl
          · exact induction later

/-- Otherwise it holds the existing job of each vertex with a key. -/
theorem existingMapping_of_known {vertices : List ℕ} {mapping : List (ℕ × GraphJob)}
    (known : ∀ vertex ∈ vertices, hasKey (keys vertex) = true → existing vertex ≠ none) :
    existingMapping keys existing vertices mapping = mapping ++ vertices.filterMap fun vertex =>
      if hasKey (keys vertex) then (existing vertex).map fun record => (vertex, record)
      else none := by
  induction vertices generalizing mapping with
  | nil => simp [existingMapping]
  | cons vertex vertices induction =>
      have later := fun {mapping} => @induction mapping fun other member =>
        known other (List.mem_cons_of_mem _ member)
      rw [existingMapping]
      cases keyed : hasKey (keys vertex) with
      | false => simp [keyed, later]
      | true =>
          obtain ⟨record, found⟩ :=
            Option.ne_none_iff_exists'.mp (known vertex List.mem_cons_self keyed)
          simp [keyed, found, later]

/-- Either the mapping is empty, and no vertex has a key or one with a key has no existing job, or
it starts with a vertex with a key and its existing job, and all vertices with a key have one. -/
theorem existingMapping_cases (vertices : List ℕ) :
    (existingMapping keys existing vertices [] = [] ∧
      ((∀ vertex ∈ vertices, hasKey (keys vertex) = false) ∨
        ∃ vertex ∈ vertices, hasKey (keys vertex) = true ∧ existing vertex = none)) ∨
    ∃ vertex ∈ vertices, ∃ record rest,
      existingMapping keys existing vertices [] = (vertex, record) :: rest ∧
      hasKey (keys vertex) = true ∧ existing vertex = some record ∧
      ∀ other ∈ vertices, hasKey (keys other) = true → existing other ≠ none := by
  cases someFresh : vertices.find? fun vertex =>
      hasKey (keys vertex) && (existing vertex).isNone with
  | some vertex =>
      have fresh := List.find?_some someFresh
      rw [Bool.and_eq_true, Option.isNone_iff_eq_none] at fresh
      have member := List.mem_of_find?_eq_some someFresh
      exact Or.inl ⟨existingMapping_of_fresh member fresh.1 fresh.2,
        Or.inr ⟨vertex, member, fresh⟩⟩
  | none =>
      have known (vertex : ℕ) (member : vertex ∈ vertices)
          (keyed : hasKey (keys vertex) = true) : existing vertex ≠ none := by
        have known := List.find?_eq_none.mp someFresh vertex member
        simpa [keyed, ← Option.isNone_iff_eq_none] using known
      rw [existingMapping_of_known known, List.nil_append]
      generalize mapped : (vertices.filterMap fun vertex =>
        if hasKey (keys vertex) then (existing vertex).map fun record => (vertex, record)
        else none) = mapping
      cases mapping with
      | nil =>
          refine Or.inl ⟨rfl, Or.inl fun vertex member => ?_⟩
          have unmapped := List.filterMap_eq_nil_iff.mp mapped vertex member
          cases keyed : hasKey (keys vertex) with
          | false => rfl
          | true =>
              rw [if_pos keyed, Option.map_eq_none_iff] at unmapped
              exact absurd unmapped (known vertex member keyed)
      | cons entry mapping =>
          obtain ⟨vertex, record⟩ := entry
          obtain ⟨source, member, sourceMapped⟩ := List.mem_filterMap.mp
            (mapped ▸ List.mem_cons_self : (vertex, record) ∈ _)
          have keyed : hasKey (keys source) = true := by
            by_contra unkeyed
            simp [unkeyed] at sourceMapped
          rw [if_pos keyed, Option.map_eq_some_iff] at sourceMapped
          obtain ⟨_, found, equal⟩ := sourceMapped
          obtain ⟨rfl, rfl⟩ := Prod.mk.inj equal
          exact Or.inr ⟨source, member, _, mapping, rfl, keyed, found, known⟩

end Mapping

theorem ensureSameGraphUuid_of_ne_nil (graphUuid : String) {vertices : List ℕ}
    (nonempty : vertices ≠ []) :
    ∃ chosen, ensureSameGraphUuid graphUuid vertices = .ok chosen := by
  match vertices with
  | [] => contradiction
  | [_] => exact ⟨_, rfl⟩
  | _ :: _ :: _ => exact ⟨_, rfl⟩

section Delay

variable {stored : List GraphJob} {uuids : Uuids stored}

/-- A job with a fresh identifier is not among the stored ones, and so nothing is kept of it where
nothing is stored. -/
theorem not_kept (uuids : Uuids stored) {after : Delayed} {vertex : ℕ} {key : Option String}
    {keyed : Prop}
    (same : after.stored = stored) (fresh : (after.generatedJob vertex).uuid = uuids.uuid vertex) :
    ¬ (after.NewlyStored stored vertex ∨
      (keyed ∧ after.RefersToExisting stored key vertex)) := by
  have absent : after.generatedJob vertex ∉ stored :=
    fun member => uuids.fresh vertex _ member fresh
  rintro (⟨member, -⟩ | ⟨-, member, -⟩)
  · exact absent (same ▸ member)
  · exact absent member

/-- Where all jobs are stored, nothing is dropped. -/
theorem stores_all {vertices : Finset ℕ} {keys : ℕ → Option IdentityKey} {order : List ℕ}
    {generated : ℕ → GraphJob} (lists : ∀ vertex ∈ vertices, vertex ∈ order)
    (fresh : ∀ vertex, (generated vertex).uuid = uuids.uuid vertex) (executed : List ℕ) :
    Delayed.DropsOnlyDuplicates vertices keys stored
      ⟨stored ++ order.map generated, generated, executed⟩ := by
  intro vertex member
  refine Or.inl ⟨?_, fun job old => ?_⟩
  · exact List.mem_append_right _ (List.mem_map_of_mem (lists vertex member))
  · rw [fresh]
    exact uuids.fresh vertex job old

/-- Delaying a graph drops nothing but duplicates exactly when there are no jobs, or they are not
executed directly and there is only one, or none has a key, or one has a key with which no stored
job waits. -/
theorem delay_dropsOnlyDuplicates_iff (expression : JobExpression)
    (keys : ℕ → Option IdentityKey) (direct : Bool) (stored : List GraphJob)
    (uuids : Uuids stored) (orders : SetOrders (JobGraph.connectGraphs expression.build)) :
    (∀ after, delay expression.build keys direct stored uuids orders = .ok after →
        after.DropsOnlyDuplicates (JobGraph.connectGraphs expression.build).vertices keys stored) ↔
      StoresOrRefers (JobGraph.connectGraphs expression.build).vertices keys direct stored := by
  obtain ⟨distinct, same⟩ := orders.iteratesVertices
  generalize vertexSet : (JobGraph.connectGraphs expression.build).vertices = vertices at same
  have listed (vertex : ℕ) : vertex ∈ orders.vertices ↔ vertex ∈ vertices := by
    rw [← same, List.mem_toFinset]
  obtain none | some := orders.vertices.eq_nil_or_concat
  · have noVertices : vertices = ∅ := by rw [← same, none, List.toFinset_nil]
    refine iff_of_true (fun after delayed vertex member => ?_) (Or.inl noVertices)
    exact absurd member (noVertices ▸ Finset.notMem_empty vertex)
  have nonempty : orders.vertices ≠ [] := by
    obtain ⟨front, last, equal⟩ := some
    simp [equal]
  obtain ⟨start, startListed⟩ := List.exists_mem_of_ne_nil _ nonempty
  have inhabited : vertices ≠ ∅ := Finset.ne_empty_of_mem ((listed start).mp startListed)
  obtain ⟨chosen, uuidChosen⟩ := ensureSameGraphUuid_of_ne_nil uuids.graphUuid nonempty
  cases direct with
  | true =>
      refine iff_of_false (fun drops => ?_) ?_
      · have kept := drops _ (by simp only [delay, uuidChosen]; rfl) start
          ((listed start).mp startListed)
        exact not_kept uuids rfl rfl kept
      · rintro (none | ⟨impossible, -⟩)
        · exact inhabited none
        · contradiction
  | false =>
      let generated := connectedJob (JobGraph.connectGraphs expression.build) orders uuids.uuid keys
        chosen
      have fresh (vertex : ℕ) : (generated vertex).uuid = uuids.uuid vertex := rfl
      have key (vertex : ℕ) : (generated vertex).identityKey = jobKey (keys vertex) := rfl
      let existing (vertex : ℕ) := jobRecordWithSameIdentityKey stored (generated vertex)
      have result : delay expression.build keys false stored uuids orders =
          match existingMapping keys existing orders.vertices [] with
          | (vertex, record) :: _ =>
              .ok ⟨stored, Function.update generated vertex record, []⟩
          | [] => .ok ⟨stored ++ orders.vertices.map generated, generated, []⟩ := by
        simp only [delay, uuidChosen]
        rfl
      obtain ⟨empty, cause⟩ | ⟨vertex, member, record, rest, first, keyed, found, known⟩ :=
        @existingMapping_cases keys existing orders.vertices
      · rw [empty] at result
        refine iff_of_true (fun after delayed => ?_) (Or.inr ⟨rfl, Or.inr ?_⟩)
        · obtain rfl := Except.ok.inj (result.symm.trans delayed)
          exact stores_all (fun vertex => (listed vertex).mpr) fresh []
        · refine cause.imp (fun unkeyed vertex member =>
              unkeyed vertex ((listed vertex).mpr member)) ?_
          rintro ⟨vertex, member, keyed, fresh⟩
          exact ⟨vertex, (listed vertex).mp member, keyed,
            key vertex ▸ jobRecord_eq_none_iff.mp fresh⟩
      · rw [first] at result
        obtain ⟨recordStored, waits⟩ := jobRecord_eq_some found
        constructor
        · intro drops
          have kept := drops _ result
          refine Or.inr ⟨rfl, Or.inl ⟨vertex, ?_⟩⟩
          refine Finset.eq_singleton_iff_unique_mem.mpr ⟨(listed vertex).mp member, ?_⟩
          intro other otherMember
          by_contra differ
          refine not_kept uuids rfl ?_ (kept other otherMember)
          exact congrArg GraphJob.uuid (Function.update_of_ne differ record generated)
        · rintro (none | ⟨-, ⟨only, single⟩ | unkeyed | ⟨new, newMember, newKeyed, newFresh⟩⟩)
          · exact absurd none inhabited
          · intro after delayed other otherMember
            obtain rfl := Except.ok.inj (result.symm.trans delayed)
            have here := (listed vertex).mp member
            rw [single, Finset.mem_singleton] at otherMember here
            obtain rfl : other = vertex := otherMember.trans here.symm
            refine Or.inr ⟨keyed, ?_⟩
            simp only [Delayed.RefersToExisting, Function.update_self]
            exact ⟨recordStored, key other ▸ waits⟩
          · rw [unkeyed vertex ((listed vertex).mp member)] at keyed
            contradiction
          · exact absurd (jobRecord_eq_none_iff.mpr (key new ▸ newFresh))
              (known new ((listed new).mpr newMember) newKeyed)

/-- A stored job that waits with the key `k`. -/
def waitingJob : GraphJob := ⟨"stored", some "k", .pending, none, [], []⟩

/-- Identifiers of any length, none of which is that of the stored job. -/
def lengthUuids : Uuids [waitingJob] where
  uuid vertex := String.ofList (List.replicate vertex 'a')
  graphUuid := "graph"
  injective left right same := by
    simpa using congrArg String.length same
  fresh vertex job member same := by
    obtain rfl := List.mem_singleton.mp member
    have letters : "stored".toList = List.replicate vertex 'a' := by
      rw [show "stored" = String.ofList (List.replicate vertex 'a') from same,
        String.toList_ofList]
    have inside : 's' ∈ List.replicate vertex 'a' := letters ▸ (by decide)
    have impossible := (List.mem_replicate.mp inside).2
    contradiction

/-- `group(a, b)` where `a` has the key of a waiting job and `b` has none: `b` is not stored. -/
theorem unkeyed_job_dropped : ∃ orders after,
    delay (JobExpression.build (.group [.delayable, .delayable]))
        (fun vertex => if vertex = 0 then some (.text "k") else none) false [waitingJob] lengthUuids
        orders = .ok after ∧
      ¬ after.DropsOnlyDuplicates
        (JobGraph.connectGraphs (JobExpression.build (.group [.delayable, .delayable]))).vertices
        (fun vertex => if vertex = 0 then some (.text "k") else none) [waitingJob] := by
  have iterates : JobGraph.Iterates [0, 1]
      (JobGraph.connectGraphs
        (JobExpression.build (.group [.delayable, .delayable]))).vertices := by
    exact ⟨by decide, by decide +kernel⟩
  have roots : JobGraph.Iterates [0, 1] (JobGraph.connectGraphs
      (JobExpression.build (.group [.delayable, .delayable]))).rootVertices := by
    exact ⟨by decide, by decide +kernel⟩
  have neighbours (job : ℕ) : JobGraph.Iterates (JobGraph.neighbours (JobGraph.connectGraphs
      (JobExpression.build (.group [.delayable, .delayable]))) job).toList _ :=
    ⟨Finset.nodup_toList _, Finset.toList_toFinset _⟩
  refine ⟨⟨[0, 1], [0, 1], _, iterates, roots, neighbours⟩, _, rfl, fun drops => ?_⟩
  exact not_kept lengthUuids rfl rfl (drops 1 (by decide +kernel))

end Delay

end OdooConnector.Queue
