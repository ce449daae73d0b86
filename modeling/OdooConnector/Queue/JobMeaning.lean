import OdooConnector.Queue.JobGraph

/-!
# What the combinators mean

A chain runs its elements one after the other, what is attached with `on_done` runs after the
object it is attached to, and the elements of a group are not ordered. The graph that is built
means this exactly for some shapes of expressions.
-/

namespace OdooConnector.Queue

open Network Relation

namespace Delayable

/-- Objects attached with `on_done`. -/
def next : Delayable → List Delayable
  | job _ next => next
  | chain _ _ _ next => next
  | group _ _ next => next

mutual

/-- Jobs of the object itself. What is attached to one of its parts follows that part only. -/
def ownJobs : Delayable → List ℕ
  | job id _ => [id]
  | chain _ first rest _ => first.ownJobs ++ ownJobsAll rest
  | group _ elements _ => ownJobsAll elements

/-- Jobs of the objects of a list themselves. -/
def ownJobsAll : List Delayable → List ℕ
  | [] => []
  | element :: elements => element.ownJobs ++ ownJobsAll elements

end

/-- A job has to wait for another one: jobs attached with `on_done` wait for the receiver's own
jobs, and the jobs of an element of a chain for those of the earlier elements. -/
inductive Waits : Delayable → ℕ → ℕ → Prop
  | attached {delayable child : Delayable} {source target : ℕ} (listed : child ∈ delayable.next)
      (own : source ∈ delayable.ownJobs) (later : target ∈ child.jobs) :
      Waits delayable source target
  | chained {id : ℕ} {first earlier later : Delayable} {rest next : List Delayable}
      {source target : ℕ} (order : [earlier, later].Sublist (first :: rest))
      (own : source ∈ earlier.ownJobs) (follows : target ∈ later.jobs) :
      Waits (chain id first rest next) source target
  | part {delayable part : Delayable} {source target : ℕ} (listed : part ∈ delayable.parts)
      (waits : Waits part source target) : Waits delayable source target

/-- Two jobs belong to different elements of a group. -/
inductive Grouped : Delayable → ℕ → ℕ → Prop
  | elements {id : ℕ} {left right : Delayable} {elements next : List Delayable} {source target : ℕ}
      (inLeft : left ∈ elements) (inRight : right ∈ elements) (differ : left ≠ right)
      (one : source ∈ left.jobs) (other : target ∈ right.jobs) :
      Grouped (group id elements next) source target
  | part {delayable part : Delayable} {source target : ℕ} (listed : part ∈ delayable.parts)
      (grouped : Grouped part source target) : Grouped delayable source target

theorem ownJobsAll_eq (elements : List Delayable) :
    ownJobsAll elements = elements.flatMap ownJobs := by
  induction elements with
  | nil => rfl
  | cons element elements induction => rw [ownJobsAll, induction, List.flatMap_cons]

theorem mem_network_jobs {delayable : Delayable} {node : ℕ} :
    node ∈ delayable.network.all ↔ node ∈ delayable.jobs := by
  rw [mem_network_all, mem_jobs]

theorem mem_alongside_jobs {elements : List Delayable} {node : ℕ} :
    node ∈ (alongside (networks elements)).all ↔ ∃ element ∈ elements, node ∈ element.jobs := by
  simp only [mem_alongside_all, networks_eq, List.mem_map, exists_exists_and_eq_and,
    mem_network_jobs]

theorem mem_network_own (delayable : Delayable) (node : ℕ) :
    node ∈ delayable.network.own ↔ node ∈ delayable.ownJobs := by
  induction delayable using Delayable.induct with
  | job id next _ => simp [network, single, ownJobs]
  | chain id first rest next inFirst inRest _ =>
      rw [network, attach_own, ownJobs, ownJobsAll_eq, List.mem_append, List.mem_flatMap]
      change node ∈ (path first.network (networks rest)).own ↔ _
      rw [mem_path_own, networks_eq]
      simp only [List.mem_cons, exists_eq_or_imp, List.mem_map, exists_exists_and_eq_and, inFirst]
      exact or_congr_right
        (exists_congr fun element => and_congr_right fun member => inRest element member)
  | group id elements next inElements _ =>
      rw [network, attach_own, ownJobs, ownJobsAll_eq, List.mem_flatMap, mem_alongside_own,
        networks_eq]
      simp only [List.mem_map, exists_exists_and_eq_and]
      exact exists_congr fun element => and_congr_right fun member => inElements element member

theorem path_networks_before {first : Delayable} {rest : List Delayable} {source target : ℕ} :
    (path first.network (networks rest)).before source target ↔
      (∃ element ∈ first :: rest, element.network.before source target) ∨
        ∃ earlier later, [earlier, later].Sublist (first :: rest) ∧
          source ∈ earlier.ownJobs ∧ target ∈ later.jobs := by
  induction rest generalizing first with
  | nil => simp [networks, path]
  | cons element rest induction =>
      have follows : target ∈ (path element.network (networks rest)).all ↔
          ∃ later ∈ element :: rest, target ∈ later.jobs := by
        rw [mem_path_all, ← networks, networks_eq]
        simp only [List.mem_map, exists_exists_and_eq_and, mem_network_jobs]
      rw [networks, path, andThen, join_before, induction, follows, mem_network_own]
      simp only [List.cons_sublist_cons', List.singleton_sublist]
      grind

theorem alongside_networks_before {elements : List Delayable} {source target : ℕ} :
    (alongside (networks elements)).before source target ↔
      ∃ element ∈ elements, element.network.before source target := by
  rw [alongside_before, networks_eq]
  simp only [List.mem_map, exists_exists_and_eq_and]

/-- What has to wait comes from the object itself or from one of its parts. -/
theorem waits_iff (delayable : Delayable) (source target : ℕ) :
    delayable.Waits source target ↔
      (source ∈ delayable.ownJobs ∧ ∃ child ∈ delayable.next, target ∈ child.jobs) ∨
        (∃ id first rest next, delayable = chain id first rest next ∧
          ∃ earlier later, [earlier, later].Sublist (first :: rest) ∧
            source ∈ earlier.ownJobs ∧ target ∈ later.jobs) ∨
        ∃ part ∈ delayable.parts, part.Waits source target := by
  constructor
  · rintro (⟨listed, own, later⟩ | ⟨order, own, follows⟩ | ⟨listed, waits⟩)
    · exact Or.inl ⟨own, _, listed, later⟩
    · exact Or.inr (Or.inl ⟨_, _, _, _, rfl, _, _, order, own, follows⟩)
    · exact Or.inr (Or.inr ⟨_, listed, waits⟩)
  · rintro (⟨own, child, listed, later⟩ | ⟨id, first, rest, next, rfl, earlier, later, order, own,
      follows⟩ | ⟨part, listed, waits⟩)
    · exact .attached listed own later
    · exact .chained order own follows
    · exact .part listed waits

/-- The order kept in the network is the one meant by the combinators. -/
theorem network_before (delayable : Delayable) (source target : ℕ) :
    delayable.network.before source target ↔ delayable.Waits source target := by
  induction delayable using inductParts with
  | step delayable induction =>
      have inner : (∃ part ∈ delayable.parts, part.Waits source target) ↔
          ∃ part ∈ delayable.parts, part.network.before source target :=
        exists_congr fun part => and_congr_right fun listed => (induction part listed).symm
      have own := mem_network_own delayable source
      rw [waits_iff, inner]
      cases delayable with
      | job id next =>
          rw [network, attach_own] at own
          rw [network, attach_before, own, mem_alongside_jobs, alongside_networks_before,
            or_iff_right (show ¬ (single id).before source target from not_false)]
          simp only [reduceCtorEq, false_and, exists_false, false_or, parts, Delayable.next]
          exact or_comm
      | chain id first rest next =>
          rw [network, attach_own] at own
          have same : (swapped first.network (networks rest)).before source target =
              (path first.network (networks rest)).before source target := rfl
          rw [network, attach_before, own, mem_alongside_jobs, alongside_networks_before, same,
            path_networks_before]
          simp only [chain.injEq, parts, Delayable.next, List.mem_append, or_and_right, exists_or]
          grind
      | group id elements next =>
          rw [network, attach_own] at own
          rw [network, attach_before, own, mem_alongside_jobs, alongside_networks_before,
            alongside_networks_before]
          simp only [reduceCtorEq, false_and, exists_false, false_or, parts, Delayable.next,
            List.mem_append, or_and_right, exists_or]
          grind

theorem elements_free {elements : List Delayable} {left right : Delayable} {source target : ℕ}
    (inLeft : left ∈ elements) (inRight : right ∈ elements) (differ : left ≠ right)
    (one : source ∈ left.jobs) (other : target ∈ right.jobs) :
    (alongside (networks elements)).free source target := by
  induction elements with
  | nil => exact (List.not_mem_nil inLeft).elim
  | cons element elements induction =>
      obtain rfl | leftLater := List.mem_cons.mp inLeft
      · obtain rfl | rightLater := List.mem_cons.mp inRight
        · exact absurd rfl differ
        · exact Or.inr (Or.inr (Or.inl ⟨mem_network_jobs.mpr one,
            mem_alongside_jobs.mpr ⟨right, rightLater, other⟩⟩))
      · obtain rfl | rightLater := List.mem_cons.mp inRight
        · exact Or.inr (Or.inr (Or.inr ⟨mem_alongside_jobs.mpr ⟨left, leftLater, one⟩,
            mem_network_jobs.mpr other⟩))
        · exact Or.inr (Or.inl (induction leftLater rightLater))

/-- The network keeps jobs of different elements of a group apart. -/
theorem network_free {delayable : Delayable} {source target : ℕ}
    (grouped : delayable.Grouped source target) : delayable.network.free source target := by
  induction grouped with
  | elements inLeft inRight differ one other =>
      exact Or.inl (elements_free inLeft inRight differ one other)
  | @part delayable part source target listed grouped induction =>
      cases delayable with
      | job id next =>
          exact Or.inr (alongside_free ⟨_, by
            rw [networks_eq]
            exact List.mem_map_of_mem listed, induction⟩)
      | chain id first rest next =>
          obtain inside | attached := List.mem_append.mp listed
          · refine Or.inl (path_free ⟨part.network, ?_, induction⟩)
            rw [← networks, networks_eq]
            exact List.mem_map_of_mem inside
          · refine Or.inr (alongside_free ⟨part.network, ?_, induction⟩)
            rw [networks_eq]
            exact List.mem_map_of_mem attached
      | group id elements next =>
          obtain inside | attached := List.mem_append.mp listed
          · refine Or.inl (alongside_free ⟨part.network, ?_, induction⟩)
            rw [networks_eq]
            exact List.mem_map_of_mem inside
          · refine Or.inr (alongside_free ⟨part.network, ?_, induction⟩)
            rw [networks_eq]
            exact List.mem_map_of_mem attached

end Delayable

namespace JobGraph

/-- One job depends directly on another. -/
def Edge (jobs : JobGraph) (source target : ℕ) : Prop := target ∈ jobs.neighbours source

theorem mem_vertices {jobs : JobGraph} {node : ℕ} : node ∈ jobs.vertices ↔ node ∈ jobs.keys :=
  List.mem_toFinset

theorem neighbours_eq_empty {jobs : JobGraph} {node : ℕ} (absent : node ∉ jobs.keys) :
    jobs.neighbours node = ∅ := by
  have none : jobs.get? node = none := by
    refine Option.eq_none_iff_forall_not_mem.mpr fun value found => ?_
    rw [Option.mem_def, Dict.get?_eq_some_iff] at found
    exact absent (List.mem_map_of_mem found)
  rw [neighbours, none, Option.getD_none]

theorem mem_rootVertices {jobs : JobGraph} {node : ℕ} :
    node ∈ jobs.rootVertices ↔ node ∈ jobs.vertices ∧ ∀ vertex, ¬ jobs.Edge vertex node := by
  rw [rootVertices, Finset.mem_sdiff, Finset.mem_biUnion]
  refine and_congr_right fun _ => ⟨fun none vertex edge => none ⟨vertex, ?_, edge⟩,
    fun none ⟨vertex, _, edge⟩ => none vertex edge⟩
  by_contra absent
  rw [Edge, neighbours_eq_empty fun key => absent (List.mem_toFinset.mpr key)] at edge
  exact Finset.notMem_empty _ edge

/-- `topological_sort` of a graph without cycles lists every vertex once, after everything it
depends on. -/
theorem topologicalSort_spec {jobs : JobGraph} (acyclic : ∀ node, ¬ TransGen jobs.Edge node node)
    (closed : ∀ source target, jobs.Edge source target → target ∈ jobs.vertices)
    {roots : List ℕ} {order : ℕ → List ℕ} (iteratesRoots : Iterates roots jobs.rootVertices)
    (iterates : ∀ job, Iterates (order job) (jobs.neighbours job)) :
    (jobs.topologicalSort roots order).Nodup ∧
      (∀ node, node ∈ jobs.topologicalSort roots order ↔ node ∈ jobs.vertices) ∧
      ∀ before vertex after, jobs.topologicalSort roots order = before ++ vertex :: after →
        ∀ dependency, TransGen jobs.Edge dependency vertex → dependency ∈ before := by
  have edge (source target : ℕ) : target ∈ order source ↔ jobs.Edge source target := by
    rw [Edge, ← (iterates source).2, List.mem_toFinset]
  have sameEdge : (fun source target => target ∈ order source) = jobs.Edge :=
    funext fun source => funext fun target => propext (edge source target)
  have card : jobs.keys.length = jobs.vertices.card :=
    (List.toFinset_card_of_nodup jobs.keys_nodup).symm
  have counts (node : ℕ) : jobs.dependsPerNode node =
      ((jobs.vertices.filter fun job => node ∈ order job).card : ℤ) := by
    simp only [dependsPerNode, edge, Edge]
  obtain ⟨distinct, listed, ordered⟩ := sortQueue_spec (fun job => (iterates job).1)
    (fun vertex node found => by
      refine ⟨?_, closed _ _ ((edge vertex node).mp found)⟩
      by_contra absent
      have found := (edge vertex node).mp found
      rw [Edge, neighbours_eq_empty fun key => absent (List.mem_toFinset.mpr key)] at found
      exact Finset.notMem_empty _ found)
    (by rwa [sameEdge]) counts iteratesRoots.1
    (fun node => by
      rw [← List.mem_toFinset, iteratesRoots.2, mem_rootVertices]
      simp only [edge])
  rw [← card] at distinct listed ordered
  refine ⟨distinct, listed, fun before vertex after split dependency path => ?_⟩
  refine ordered.reached split ?_
  rwa [sameEdge]

end JobGraph

/-- The numbers counted up between two counts are distinct. -/
def Counted (numbers : List ℕ) (start stop : ℕ) : Prop :=
  start ≤ stop ∧ numbers.Nodup ∧ ∀ number ∈ numbers, start ≤ number ∧ number < stop

theorem Counted.append {first second : List ℕ} {start middle stop : ℕ}
    (left : Counted first start middle) (right : Counted second middle stop) :
    Counted (first ++ second) start stop := by
  refine ⟨left.1.trans right.1, ?_, fun number member => ?_⟩
  · refine List.nodup_append.mpr ⟨left.2.1, right.2.1, fun number inLeft other inRight same => ?_⟩
    have below := (left.2.2 number inLeft).2
    have above := (right.2.2 other inRight).1
    omega
  · obtain member | member := List.mem_append.mp member
    · exact ⟨(left.2.2 number member).1, (left.2.2 number member).2.trans_le right.1⟩
    · exact ⟨left.1.trans (right.2.2 number member).1, (right.2.2 number member).2⟩

theorem Counted.last {numbers : List ℕ} {start stop : ℕ} (counted : Counted numbers start stop) :
    Counted (stop :: numbers) start (stop + 1) := by
  have single : Counted [stop] stop (stop + 1) := ⟨by omega, by simp, by simp⟩
  obtain ⟨less, distinct, bounds⟩ := counted.append single
  refine ⟨less, (List.perm_append_singleton _ _).nodup_iff.mp distinct, fun number member => ?_⟩
  exact bounds number ((List.perm_append_singleton _ _).mem_iff.mpr member)

namespace JobExpression

theorem objects_onDone (receiver : Delayable) (children : List Delayable) :
    ((receiver.onDone children).objects.map Delayable.id).Perm
      (receiver.objects.map Delayable.id ++
        (Delayable.objectsAll children).map Delayable.id) := by
  cases receiver with
  | job id next => simp [Delayable.onDone, Delayable.objects, Delayable.objectsAll_eq, Delayable.id]
  | chain id first rest next =>
      simp [Delayable.onDone, Delayable.objects, Delayable.objectsAll_eq, Delayable.id]
  | group id elements next =>
      simp [Delayable.onDone, Delayable.objects, Delayable.objectsAll_eq, Delayable.id]

/-- Every object of an expression gets a number of its own. -/
theorem evaluate_counted (expression : JobExpression) (fresh : ℕ) :
    Counted ((expression.evaluate fresh).1.objects.map Delayable.id) fresh
      (expression.evaluate fresh).2 := by
  refine @JobExpression.rec
    (fun expression => ∀ fresh, Counted ((expression.evaluate fresh).1.objects.map Delayable.id)
      fresh (expression.evaluate fresh).2)
    (fun list => ∀ fresh, Counted ((Delayable.objectsAll (evaluateAll list fresh).1).map
      Delayable.id) fresh (evaluateAll list fresh).2)
    ?delayable ?chain ?group ?onDone ?nil ?cons expression fresh
  case delayable =>
    intro fresh
    exact ⟨by simp [evaluate], by simp [evaluate, Delayable.objects, Delayable.objectsAll],
      by simp [evaluate, Delayable.objects, Delayable.objectsAll, Delayable.id]⟩
  case chain =>
    intro first rest inFirst inRest fresh
    have counted := ((inFirst fresh).append (inRest _)).last
    simpa [evaluate, Delayable.objects, Delayable.objectsAll, Delayable.id] using counted
  case group =>
    intro elements inElements fresh
    simpa [evaluate, Delayable.objects, Delayable.objectsAll, Delayable.id]
      using (inElements fresh).last
  case onDone =>
    intro receiver children inReceiver inChildren fresh
    obtain ⟨less, distinct, bounds⟩ := (inReceiver fresh).append (inChildren _)
    have same := objects_onDone (receiver.evaluate fresh).1
      (evaluateAll children (receiver.evaluate fresh).2).1
    exact ⟨less, same.nodup_iff.mpr distinct,
      fun number member => bounds number (same.mem_iff.mp member)⟩
  case nil =>
    intro fresh
    exact ⟨le_rfl, List.nodup_nil, by simp [evaluateAll, Delayable.objectsAll]⟩
  case cons =>
    intro argument arguments inArgument inArguments fresh
    have counted := (inArgument fresh).append (inArguments _)
    simpa [evaluateAll, Delayable.objectsAll] using counted

theorem build_distinct (expression : JobExpression) : expression.build.Distinct :=
  (expression.evaluate_counted 0).2.1

/-- The graph built for an expression means what the combinators say: what has to wait depends on
what it waits for, jobs of different elements of a group do not depend on each other, and the
topological sort lists every job once, after all its dependencies. -/
structure MeansCombinators (expression : JobExpression) : Prop where
  waits : ∀ source target, expression.build.Waits source target →
    TransGen (JobGraph.connectGraphs expression.build).Edge source target
  grouped : ∀ source target, expression.build.Grouped source target →
    ¬ TransGen (JobGraph.connectGraphs expression.build).Edge source target
  sorted : ∀ roots order,
    JobGraph.Iterates roots (JobGraph.connectGraphs expression.build).rootVertices →
    (∀ job, JobGraph.Iterates (order job)
      ((JobGraph.connectGraphs expression.build).neighbours job)) →
    ((JobGraph.connectGraphs expression.build).topologicalSort roots order).Nodup ∧
      (∀ job, job ∈ (JobGraph.connectGraphs expression.build).topologicalSort roots order ↔
        job ∈ expression.build.jobs) ∧
      ∀ before job after,
        (JobGraph.connectGraphs expression.build).topologicalSort roots order =
          before ++ job :: after →
        ∀ dependency,
          TransGen (JobGraph.connectGraphs expression.build).Edge dependency job →
            dependency ∈ before

/-- The heads and tails of the parts of an expression are connected as the combinators mean, and
nothing is attached to a group without elements. -/
def connected (expression : JobExpression) : Bool :=
  expression.build.kept && expression.build.shape.ordered

/-- The graph means what the combinators say exactly for expressions whose parts are connected by
the right ends. -/
theorem meansCombinators_iff (expression : JobExpression) :
    expression.MeansCombinators ↔ expression.connected = true := by
  have distinct := expression.build_distinct
  have known := Delayable.known expression.build distinct
  have inNetwork (source target : ℕ)
      (path : TransGen (JobGraph.connectGraphs expression.build).Edge source target) :
      TransGen expression.build.network.edge source target :=
    TransGen.mono (fun _ _ edge => JobGraph.connectGraphs_edge distinct edge) _ _ path
  have acyclic (node : ℕ) :
      ¬ TransGen (JobGraph.connectGraphs expression.build).Edge node node :=
    fun cycle => known.acyclic node (inNetwork node node cycle)
  have sorted {roots : List ℕ} {order : ℕ → List ℕ} := @JobGraph.topologicalSort_spec
    (JobGraph.connectGraphs expression.build) acyclic
    (fun _ _ edge => List.mem_toFinset.mpr (JobGraph.connectGraphs_closed distinct edge))
    roots order
  rw [connected, Bool.and_eq_true]
  constructor
  · intro means
    have kept : expression.build.kept = true := by
      refine JobGraph.kept_of_keys distinct fun node job => ?_
      have iterates (set : Finset ℕ) : JobGraph.Iterates set.toList set :=
        ⟨set.nodup_toList, set.toList_toFinset⟩
      obtain ⟨-, lists, -⟩ := means.sorted _ (fun job => _) (iterates _) fun job => iterates _
      have listed := (lists node).mpr job
      exact List.mem_toFinset.mp
        (((sorted (iterates _) fun job => iterates _).2.1 node).mp listed)
    refine ⟨kept, known.describes.ordered.mpr fun source target earlier => ?_⟩
    exact (inNetwork source target (means.waits source target
      ((Delayable.network_before _ source target).mp earlier))).to_reflTransGen
  · rintro ⟨kept, ordered⟩
    have same : (JobGraph.connectGraphs expression.build).Edge = expression.build.network.edge :=
      funext fun source => funext fun target =>
        propext (JobGraph.mem_connectGraphs distinct kept source target)
    refine ⟨fun source target waits => ?_, fun source target grouped path => ?_, ?_⟩
    · have earlier := (Delayable.network_before _ source target).mpr waits
      have path := known.describes.ordered.mp ordered source target earlier
      obtain rfl | path := reflTransGen_iff_eq_or_transGen.mp path
      · exact absurd earlier (known.strict _)
      · rwa [same]
    · exact known.independent source target (Delayable.network_free grouped)
        (inNetwork source target path).to_reflTransGen
    · intro roots order iteratesRoots iterates
      obtain ⟨once, lists, after⟩ := sorted iteratesRoots iterates
      refine ⟨once, fun job => ?_, after⟩
      rw [lists, JobGraph.mem_vertices, JobGraph.connectGraphs_keys distinct kept]

/-- `a.on_done(chain(chain(b, c), d))`: the chain `chain(b, c)` gives its tail `c` as its head, and
so nothing makes `b` wait for `a`. -/
theorem attached_chain_starts_early : ¬ MeansCombinators
    (.onDone .delayable [.chain (.chain .delayable [.delayable]) [.delayable]]) := by
  intro means
  have first : Delayable.Waits (JobExpression.build
      (.onDone .delayable [.chain (.chain .delayable [.delayable]) [.delayable]])) 0 1 :=
    .attached List.mem_cons_self (by decide) (by decide)
  have root : 1 ∈ (JobGraph.connectGraphs (JobExpression.build
      (.onDone .delayable
        [.chain (.chain .delayable [.delayable]) [.delayable]]))).rootVertices := by
    decide +kernel
  obtain ⟨last, -, edge⟩ := TransGen.tail'_iff.mp (means.waits 0 1 first)
  exact (JobGraph.mem_rootVertices.mp root).2 last edge

end JobExpression

end OdooConnector.Queue
