import OdooConnector.Library.Chunks
import OdooConnector.Queue.DelayedGraph

/-!
# Calls split into batches

A delayed call on many records is split into calls on some of them, which make a chain or a group.
Every record is processed once, and by a chain in the order of the records.
-/

namespace OdooConnector.Queue

/-- A method of the records of a model. -/
structure JobMethod where
  modelName : String
  name : String
  doc : Option String

/-- What a `Delayable` is made with. -/
structure DelayableCall (Record Arguments Eta : Type) where
  recordset : List Record
  jobMethod : Option JobMethod
  jobArguments : Arguments
  priority : Option ℤ
  eta : Option Eta
  maxRetries : Option ℤ
  description : Option String
  channel : Option String
  identityKey : Option IdentityKey

inductive SplitError where
  | value (message : String)
  | stopIteration

def isLineBoundary (char : Char) : Bool :=
  char ∈ ['\n', '\r', '\x0b', '\x0c', '\x1c', '\x1d', '\x1e', '\u0085', '\u2028', '\u2029']

namespace JobMethod

variable (method : JobMethod)

/-- The first line of the docstring, or the names of the model and the method. -/
def defaultDescription : String :=
  match method.doc.filter fun doc => doc ≠ "" with
  | some doc => strip (String.ofList (doc.toList.takeWhile fun char => !isLineBoundary char))
  | none => method.modelName ++ "." ++ method.name

end JobMethod

namespace DelayableCall

variable {Record Arguments Eta : Type} (call : DelayableCall Record Arguments Eta)

/-- The recordsets of `range(0, total_records, size)`, which is empty for a negative size. -/
def slices (size : ℤ) : List (List Record) :=
  if 0 < size then chunks size.toNat call.recordset else []

def batches (method : JobMethod) (size : ℤ) : List (DelayableCall Record Arguments Eta) :=
  let description :=
    (call.description.filter fun text => text ≠ "").getD method.defaultDescription
  let slices := call.slices size
  slices.mapIdx fun index recordset =>
    { call with
      recordset := recordset
      description := some (description ++ " (split " ++ toString (index + 1) ++ "/" ++
        toString slices.length ++ ")") }

/-- `split`. A chain cannot be made of nothing. -/
def split (size : ℤ) (chained : Bool) :
    Except SplitError (List (DelayableCall Record Arguments Eta) × JobExpression) :=
  match call.jobMethod with
  | none => .error (.value "No method set on the Delayable")
  | some method =>
      if size = 0 then .error (.value "range() arg 3 must not be zero")
      else
        let batches := call.batches method size
        if chained then
          match batches with
          | [] => .error .stopIteration
          | _ :: rest => .ok (batches, .chain .delayable (rest.map fun _ => .delayable))
        else .ok (batches, .group (batches.map fun _ => .delayable))

end DelayableCall

section Batches

variable {Record Arguments Eta : Type}

/-- The batches are numbered as the delayables are that are made of them. -/
def recordsOf (batches : List (DelayableCall Record Arguments Eta)) (vertex : ℕ) : List Record :=
  (batches[vertex]?.map DelayableCall.recordset).getD []

def keysOf (batches : List (DelayableCall Record Arguments Eta)) (vertex : ℕ) :
    Option IdentityKey :=
  batches[vertex]?.bind DelayableCall.identityKey

theorem flatMap_recordsOf (batches : List (DelayableCall Record Arguments Eta)) :
    (List.range batches.length).flatMap (recordsOf batches) =
      batches.flatMap DelayableCall.recordset := by
  induction batches using List.reverseRecOn with
  | nil => rfl
  | append_singleton batches last induction =>
      have front : (List.range batches.length).flatMap (recordsOf (batches ++ [last])) =
          (List.range batches.length).flatMap (recordsOf batches) := by
        refine List.flatMap_congr fun vertex member => ?_
        rw [recordsOf, List.getElem?_append_left (List.mem_range.mp member), recordsOf]
      rw [List.length_append, List.length_singleton, List.range_succ, List.flatMap_append,
        List.flatMap_append, front, induction, List.flatMap_singleton, List.flatMap_singleton,
        recordsOf, List.getElem?_concat_length]
      rfl

variable {call : DelayableCall Record Arguments Eta} {method : JobMethod} {size : ℤ}
  {chained : Bool} {batches : List (DelayableCall Record Arguments Eta)}
  {expression : JobExpression}

/-- The batches hold the records, one after the other, and none of them is too large. -/
theorem batches_cover (positive : 0 < size) :
    (call.batches method size).flatMap DelayableCall.recordset = call.recordset ∧
      ∀ batch ∈ call.batches method size,
        0 < batch.recordset.length ∧ batch.recordset.length ≤ size := by
  have counted : 0 < size.toNat := by omega
  have slices : (call.batches method size).map DelayableCall.recordset =
      chunks size.toNat call.recordset := by
    rw [DelayableCall.batches, DelayableCall.slices, if_pos positive]
    refine List.ext_getElem? fun index => ?_
    rw [List.getElem?_map, List.getElem?_mapIdx, Option.map_map]
    exact Option.map_id'
  constructor
  · rw [List.flatMap_def, slices, flatten_chunks counted]
  · intro batch member
    obtain ⟨some', few⟩ := length_of_mem_chunks counted (slices ▸ List.mem_map_of_mem member)
    omega

/-- The expression of some batches, by which they are delayed. -/
theorem split_expression (done : call.split size chained = .ok (batches, expression)) :
    (∃ method, call.jobMethod = some method ∧ batches = call.batches method size) ∧ size ≠ 0 ∧
      ((chained = true ∧ ∃ count, batches.length = count + 1 ∧
          expression = .chain .delayable (List.replicate count .delayable)) ∨
        (chained = false ∧ expression = .group (List.replicate batches.length .delayable))) := by
  rw [DelayableCall.split] at done
  cases given : call.jobMethod with
  | none =>
      rw [given] at done
      cases done
  | some method =>
      rw [given] at done
      dsimp only at done
      split at done
      · cases done
      · rename_i nonzero
        cases chained with
        | false =>
            cases done
            exact ⟨⟨method, rfl, rfl⟩, nonzero, .inr ⟨rfl, by rw [List.map_const']⟩⟩
        | true =>
            rw [if_pos rfl] at done
            split at done
            · cases done
            · rename_i first rest same
              cases done
              exact ⟨⟨method, rfl, rfl⟩, nonzero, .inl ⟨rfl, rest.length, by rw [same]; rfl,
                by rw [List.map_const']⟩⟩

end Batches

section Expressions

open JobExpression

/-- Single jobs with the numbers from one on. -/
def jobsFrom (first count : ℕ) : List Delayable :=
  (List.range' first count).map fun id => .job id []

theorem evaluateAll_delayables (count fresh : ℕ) :
    evaluateAll (List.replicate count .delayable) fresh =
      (jobsFrom fresh count, fresh + count) := by
  induction count generalizing fresh with
  | zero => rfl
  | succ count induction =>
      have step : fresh + (count + 1) = fresh + 1 + count := by omega
      rw [List.replicate_succ, evaluateAll, evaluate, induction, step]
      rfl

theorem build_chain (count : ℕ) : build (.chain .delayable (List.replicate count .delayable)) =
    .chain (1 + count) (.job 0 []) (jobsFrom 1 count) [] := by
  rw [build, evaluate, evaluate, evaluateAll_delayables]

theorem build_group (count : ℕ) : build (.group (List.replicate count .delayable)) =
    .group (0 + count) (jobsFrom 0 count) [] := by
  rw [build, evaluate, evaluateAll_delayables]

theorem mem_jobsFrom {first count : ℕ} {object : Delayable} :
    object ∈ jobsFrom first count ↔
      ∃ id, first ≤ id ∧ id < first + count ∧ object = .job id [] := by
  rw [jobsFrom, List.mem_map]
  simp only [List.mem_range'_1, and_assoc, eq_comm]

theorem not_linked_job (id source target : ℕ) :
    ¬ Linked (Delayable.job id []).graph source target := by
  rintro ⟨vertex, listed, -, head⟩
  rw [Delayable.graph, List.map_nil, List.mem_singleton] at listed
  subst listed
  exact List.not_mem_nil head

/-- Neighbours in a chain of single jobs. -/
theorem linked_chainGraph (first count source target : ℕ) :
    Linked (Delayable.chainGraph (.job first []) (jobsFrom (first + 1) count) []) source target ↔
      first ≤ source ∧ source < first + count ∧ target = source + 1 := by
  induction count generalizing first with
  | zero =>
      refine iff_of_false ?_ (by omega)
      rintro ⟨vertex, listed, -, head⟩
      rw [jobsFrom, List.range'_zero, List.map_nil, Delayable.chainGraph,
        List.mem_singleton] at listed
      subst listed
      exact List.not_mem_nil head
  | succ count induction =>
      have front : Linked [(Delayable.job first [], [Delayable.job (first + 1) []])] source target ↔
          source = first ∧ target = first + 1 := by
        simp [Linked, Delayable.tail, Delayable.headAll, Delayable.head]
      have split : Delayable.chainGraph (.job first []) (jobsFrom (first + 1) (count + 1)) [] =
          [(Delayable.job first [], [Delayable.job (first + 1) []])] ++
            Delayable.chainGraph (.job (first + 1) []) (jobsFrom (first + 1 + 1) count) [] := rfl
      rw [split, linked_append, front, induction]
      omega

/-- Expressions that calls are split into. -/
inductive IsSplit : Bool → ℕ → JobExpression → Prop
  | chain (count : ℕ) :
      IsSplit true (count + 1) (.chain .delayable (List.replicate count .delayable))
  | group (count : ℕ) : IsSplit false count (.group (List.replicate count .delayable))

variable {chained : Bool} {count vertex other : ℕ} {expression : JobExpression}

/-- The objects of a split call are one of its own and single jobs. -/
theorem mem_objects_split (split : IsSplit chained count expression) {object : Delayable} :
    object ∈ expression.build.objects ↔
      object = expression.build ∨ ∃ id < count, object = .job id [] := by
  have single (id : ℕ) : (Delayable.job id []).objects = [.job id []] := by
    rw [Delayable.objects, Delayable.objectsAll]
  have inner (first count : ℕ) : (∃ part ∈ jobsFrom first count, object ∈ part.objects) ↔
      ∃ id, first ≤ id ∧ id < first + count ∧ object = .job id [] := by
    rw [← mem_jobsFrom]
    constructor
    · rintro ⟨part, listed, member⟩
      obtain ⟨id, -, -, rfl⟩ := mem_jobsFrom.mp listed
      rw [single, List.mem_singleton] at member
      exact member ▸ listed
    · intro listed
      exact ⟨object, listed, Delayable.mem_objects_self object⟩
  rw [Delayable.mem_objects]
  refine or_congr_right ?_
  cases split with
  | group count =>
      rw [build_group, Delayable.parts, List.append_nil, inner]
      simp
  | chain count =>
      rw [build_chain, Delayable.parts, List.append_nil, List.exists_mem_cons_iff, inner, single,
        List.mem_singleton]
      constructor
      · rintro (rfl | ⟨id, -, below, rfl⟩)
        · exact ⟨0, by omega, rfl⟩
        · exact ⟨id, by omega, rfl⟩
      · rintro ⟨id, below, rfl⟩
        rcases Nat.eq_zero_or_pos id with rfl | positive
        · exact .inl rfl
        · exact .inr ⟨id, positive, by omega, rfl⟩

theorem kept_split (split : IsSplit chained count expression) : expression.build.kept = true := by
  refine List.all_eq_true.mpr fun object member => ?_
  rcases (mem_objects_split split).mp member with rfl | ⟨id, -, rfl⟩
  · cases split with
    | group count =>
        rw [build_group]
        cases count with
        | zero => rfl
        | succ count => rfl
    | chain count => rfl
  · rfl

/-- A batch of a chain is followed by the next one, and one of a group by none. -/
theorem edge_split (split : IsSplit chained count expression) :
    other ∈ (JobGraph.connectGraphs expression.build).neighbours vertex ↔
      chained = true ∧ other = vertex + 1 ∧ other < count := by
  rw [JobGraph.mem_connectGraphs expression.build_distinct (kept_split split),
    Delayable.network_edge_iff]
  have own : (∃ object ∈ expression.build.objects, Linked object.graph vertex other) ↔
      Linked expression.build.graph vertex other := by
    constructor
    · rintro ⟨object, member, linked⟩
      rcases (mem_objects_split split).mp member with rfl | ⟨id, -, rfl⟩
      · exact linked
      · exact absurd linked (not_linked_job id vertex other)
    · exact fun linked => ⟨_, Delayable.mem_objects_self _, linked⟩
  rw [own]
  cases split with
  | chain count =>
      rw [build_chain, Delayable.graph, List.map_nil, List.append_nil, linked_chainGraph,
        and_iff_right rfl]
      omega
  | group count =>
      refine iff_of_false ?_ (by simp)
      rintro ⟨inner, listed, -, head⟩
      rw [build_group, Delayable.graph] at listed
      have empty : inner.2 = [] := by
        rcases List.mem_append.mp listed with listed | listed
        · obtain ⟨parent, -, rfl⟩ := List.mem_map.mp listed
          rfl
        · split at listed
          · cases listed
          · cases listed
      rw [empty] at head
      exact List.not_mem_nil head

theorem mem_vertices_split (split : IsSplit chained count expression) :
    vertex ∈ (JobGraph.connectGraphs expression.build).vertices ↔ vertex < count := by
  rw [JobGraph.mem_vertices,
    JobGraph.connectGraphs_keys expression.build_distinct (kept_split split), Delayable.mem_jobs]
  constructor
  · rintro ⟨next, member⟩
    rcases (mem_objects_split split).mp member with same | ⟨id, below, same⟩
    · cases split with
      | chain count =>
          rw [build_chain] at same
          cases same
      | group count =>
          rw [build_group] at same
          cases same
    · cases same
      exact below
  · exact fun below => ⟨[], (mem_objects_split split).mpr (.inr ⟨vertex, below, rfl⟩)⟩

/-- There is one order in which everything stands after all that is smaller. -/
theorem eq_range_of_smaller_before {list : List ℕ} (once : list.Nodup)
    (members : ∀ number, number ∈ list ↔ number < count)
    (ordered : ∀ before number after, list = before ++ number :: after →
      ∀ smaller < number, smaller ∈ before) : list = List.range count := by
  have sorted (back : List ℕ) : ∀ front, list = front ++ back → back.Pairwise (· < ·) := by
    induction back with
    | nil => exact fun _ _ => .nil
    | cons number back induction =>
        intro front split
        refine List.pairwise_cons.mpr ⟨fun later member => ?_, induction (front ++ [number]) ?_⟩
        · have distinct := List.nodup_append.mp (split ▸ once)
          refine lt_of_le_of_ne (not_lt.mp fun smaller => ?_) fun same => ?_
          · have before := ordered front number back split later smaller
            exact distinct.2.2 later before later (List.mem_cons_of_mem _ member) rfl
          · exact (List.nodup_cons.mp distinct.2.1).1 (same ▸ member)
        · rw [split, List.append_assoc, List.singleton_append]
  have same : list.Perm (List.range count) := by
    refine (List.perm_ext_iff_of_nodup once List.nodup_range).mpr fun number => ?_
    rw [members, List.mem_range]
  exact same.eq_of_pairwise (fun _ _ _ _ one other => absurd one (not_lt.mpr other.le))
    (sorted list [] rfl) List.pairwise_lt_range

/-- The batches are executed once each, and those of a chain in their order. -/
theorem topologicalSort_split (split : IsSplit chained count expression)
    (orders : SetOrders (JobGraph.connectGraphs expression.build)) :
    ((JobGraph.connectGraphs expression.build).topologicalSort orders.roots
        orders.neighbours).Perm (List.range count) ∧
      (chained = true → (JobGraph.connectGraphs expression.build).topologicalSort orders.roots
        orders.neighbours = List.range count) := by
  obtain ⟨once, listed, ordered⟩ := JobGraph.topologicalSort_spec JobExpression.acyclic
    (fun _ _ edge => List.mem_toFinset.mpr
      (JobGraph.connectGraphs_closed expression.build_distinct edge))
    orders.iteratesRoots orders.iteratesNeighbours
  have members (number : ℕ) := (listed number).trans (mem_vertices_split split)
  constructor
  · refine (List.perm_ext_iff_of_nodup once List.nodup_range).mpr fun number => ?_
    rw [members, List.mem_range]
  · intro inChain
    refine eq_range_of_smaller_before once members fun before number after same smaller less => ?_
    refine ordered before number after same smaller ?_
    have below : number < count :=
      (members number).mp (same ▸ List.mem_append_right _ List.mem_cons_self)
    clear same
    induction less with
    | refl => exact .single ((edge_split split).mpr ⟨inChain, rfl, below⟩)
    | @step number less induction =>
        exact (induction (by omega)).tail ((edge_split split).mpr ⟨inChain, rfl, below⟩)

end Expressions

/-- A call with a method is split, unless the size is zero or a chain would have no batch. -/
theorem split_succeeds_iff {Record Arguments Eta : Type}
    {call : DelayableCall Record Arguments Eta} {size : ℤ} {chained : Bool} :
    (∃ result, call.split size chained = .ok result) ↔
      call.jobMethod.isSome ∧ size ≠ 0 ∧ (chained = true → 0 < size ∧ call.recordset ≠ []) := by
  rw [DelayableCall.split]
  cases call.jobMethod with
  | none => simp
  | some method =>
      by_cases zero : size = 0
      · simp [zero]
      · cases chained with
        | false => simp [zero]
        | true =>
            have none : call.batches method size = [] ↔ ¬ (0 < size ∧ call.recordset ≠ []) := by
              rw [DelayableCall.batches, List.mapIdx_eq_nil_iff, DelayableCall.slices]
              by_cases positive : 0 < size
              · have counted : 0 < size.toNat := by omega
                rw [if_pos positive, and_iff_right positive, not_not]
                refine ⟨fun empty => ?_, fun empty => ?_⟩
                · rw [← flatten_chunks counted call.recordset, empty, List.flatten_nil]
                · have short : 0 + size.toNat - 1 < size.toNat := by omega
                  rw [empty, chunks, List.length_nil, Nat.div_eq_of_lt short]
                  rfl
              · simp [positive]
            simp only [zero, if_false, if_true, Option.isSome_some, true_and, ne_eq,
              not_false_eq_true, forall_const]
            cases same : call.batches method size with
            | nil => exact iff_of_false (by rintro ⟨_, ⟨⟩⟩) (none.mp same)
            | cons first rest =>
                refine iff_of_true ⟨_, rfl⟩ (not_not.mp fun refused => ?_)
                rw [none.mpr refused] at same
                cases same

/-- Whatever a call is split into, each record is in one batch, and no batch is too large. Executed
directly, each record is processed once, and by a chain in their order. Delayed, a batch of a chain
depends on the batch before it only, and one of a group on none. -/
theorem split_processes_once {Record Arguments Eta : Type}
    (call : DelayableCall Record Arguments Eta) (size : ℤ) (positive : 0 < size) (chained : Bool)
    (batches : List (DelayableCall Record Arguments Eta)) (expression : JobExpression)
    (done : call.split size chained = .ok (batches, expression)) (stored : List GraphJob)
    (uuids : Uuids stored) (orders : SetOrders (JobGraph.connectGraphs expression.build)) :
    batches.flatMap DelayableCall.recordset = call.recordset ∧
    (∀ batch ∈ batches, 0 < batch.recordset.length ∧ batch.recordset.length ≤ size) ∧
    (∀ after, delay expression.build (keysOf batches) true stored uuids orders = .ok after →
      after.stored = stored ∧
      (after.executed.flatMap (recordsOf batches)).Perm call.recordset ∧
      (chained = true → after.executed.flatMap (recordsOf batches) = call.recordset)) ∧
    ∀ vertex < batches.length, ∀ parent, parent ∈ expression.parents orders vertex ↔
      chained = true ∧ vertex = parent + 1 := by
  obtain ⟨⟨method, -, rfl⟩, -, shape⟩ := split_expression done
  obtain ⟨cover, bounded⟩ := @batches_cover Record Arguments Eta call method size positive
  have split : IsSplit chained (call.batches method size).length expression := by
    rcases shape with ⟨rfl, count, length, rfl⟩ | ⟨rfl, rfl⟩
    · exact length ▸ .chain count
    · exact .group _
  obtain ⟨once, inOrder⟩ := topologicalSort_split split orders
  refine ⟨cover, bounded, fun after delayed => ?_, fun vertex below parent => ?_⟩
  · rw [delay] at delayed
    cases found : ensureSameGraphUuid uuids.graphUuid orders.vertices with
    | error message =>
        rw [found] at delayed
        cases delayed
    | ok graph =>
        rw [found] at delayed
        obtain rfl := Except.ok.inj delayed
        refine ⟨rfl, ?_, fun isChain => ?_⟩
        · refine (once.flatMap_right _).trans (.of_eq ?_)
          rw [flatMap_recordsOf, cover]
        · dsimp only
          rw [inOrder isChain, flatMap_recordsOf, cover]
  · rw [JobExpression.mem_parents, edge_split split]
    exact and_congr_right fun _ => and_iff_left below

/-- Three records in batches of two. -/
def threeRecords : DelayableCall ℕ Unit ℕ where
  recordset := [7, 8, 9]
  jobMethod := some ⟨"res.partner", "button_reset", none⟩
  jobArguments := ()
  priority := none
  eta := none
  maxRetries := none
  description := none
  channel := none
  identityKey := none

theorem split_processes_once_three : ∃ batches expression, ∃ uuids : Uuids [waitingJob],
    ∃ orders : SetOrders (JobGraph.connectGraphs (JobExpression.build expression)), ∃ after,
      threeRecords.split 2 true = .ok (batches, expression) ∧
      delay expression.build (keysOf batches) true [waitingJob] uuids orders = .ok after ∧
      after.executed.flatMap (recordsOf batches) = [7, 8, 9] ∧
      batches.map DelayableCall.description =
        [some "res.partner.button_reset (split 1/2)",
          some "res.partner.button_reset (split 2/2)"] := by
  have iterates : JobGraph.Iterates [0, 1] (JobGraph.connectGraphs
      (JobExpression.build (.chain .delayable [.delayable]))).vertices := by
    exact ⟨by decide, by decide +kernel⟩
  have roots : JobGraph.Iterates [0] (JobGraph.connectGraphs
      (JobExpression.build (.chain .delayable [.delayable]))).rootVertices := by
    exact ⟨by decide, by decide +kernel⟩
  have neighbours (job : ℕ) : JobGraph.Iterates (JobGraph.neighbours (JobGraph.connectGraphs
      (JobExpression.build (.chain .delayable [.delayable]))) job).toList _ :=
    ⟨Finset.nodup_toList _, Finset.toList_toFinset _⟩
  refine ⟨threeRecords.batches ⟨"res.partner", "button_reset", none⟩ 2,
    .chain .delayable [.delayable], lengthUuids, ⟨[0, 1], [0], _, iterates, roots, neighbours⟩, _,
    rfl, rfl, ?_, by decide +kernel⟩
  have processed := split_processes_once threeRecords 2 (by decide) true _
    (.chain .delayable [.delayable]) rfl [waitingJob] lengthUuids
    ⟨[0, 1], [0], _, iterates, roots, neighbours⟩
  exact (processed.2.2.1 _ rfl).2.2 rfl

end OdooConnector.Queue
