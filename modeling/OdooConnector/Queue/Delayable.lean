import Mathlib.Data.Finset.Card
import Mathlib.Data.Finset.Union
import OdooConnector.Library.Dict
import OdooConnector.Library.TopologicalSort
import OdooConnector.Library.Worklist

/-!
# Graphs of delayed jobs

A delayable is a single job, a chain or a group; what was attached to it with `on_done` is kept
with it. Every object has its own small graph, and `DelayableGraph._connect_graphs` walks the small
graphs and merges them into one graph of jobs through the heads and tails of chains and groups.
-/

namespace OdooConnector.Queue

/-- A delayable object, identified by a number, with the objects attached to it by `on_done`. -/
inductive Delayable where
  | job (id : ℕ) (next : List Delayable)
  | chain (id : ℕ) (first : Delayable) (rest next : List Delayable)
  | group (id : ℕ) (elements next : List Delayable)

namespace Delayable

/-- Identity of the object, and so of its small graph. -/
def id : Delayable → ℕ
  | job id _ => id
  | chain id _ _ _ => id
  | group id _ _ => id

/-- `on_done`: attach objects; the receiver itself is returned. -/
def onDone (children : List Delayable) : Delayable → Delayable
  | job id next => job id (next ++ children)
  | chain id first rest next => chain id first rest (next ++ children)
  | group id elements next => group id elements (next ++ children)

mutual

/-- `_head`. A chain asks its first element for its tail. -/
def head : Delayable → List ℕ
  | job id _ => [id]
  | chain _ first _ _ => first.tail
  | group _ elements _ => headAll elements

/-- `_tail`. A chain asks its last element for its head. -/
def tail : Delayable → List ℕ
  | job id _ => [id]
  | chain _ first rest _ => headLast first.head rest
  | group _ elements _ => tailAll elements

/-- Heads of all objects of a list. -/
def headAll : List Delayable → List ℕ
  | [] => []
  | element :: elements => element.head ++ headAll elements

/-- Tails of all objects of a list. -/
def tailAll : List Delayable → List ℕ
  | [] => []
  | element :: elements => element.tail ++ tailAll elements

/-- Heads of the last object of a list. -/
def headLast (first : List ℕ) : List Delayable → List ℕ
  | [] => first
  | element :: elements => headLast element.head elements

end

/-- The vertices of a chain's small graph with their neighbours: each element leads to the next one
and the last leads to what is attached to the chain. -/
def chainGraph (first : Delayable) (rest next : List Delayable) :
    List (Delayable × List Delayable) :=
  match rest with
  | [] => [(first, next)]
  | element :: rest => (first, [element]) :: chainGraph element rest next

/-- `_graph`: the vertices of the object's small graph with their neighbours. A group without
elements has no parent for what is attached to it, and keeps none of it. -/
def graph : Delayable → List (Delayable × List Delayable)
  | job id next => (job id next, next) :: next.map fun child => (child, [])
  | chain _ first rest next => chainGraph first rest next ++ next.map fun child => (child, [])
  | group _ elements next =>
      elements.map (fun parent => (parent, next)) ++
        if elements.isEmpty then [] else next.map fun child => (child, [])

/-- `vertices` of the object's small graph. -/
def vertices (delayable : Delayable) : List Delayable := delayable.graph.map Prod.fst

mutual

/-- The object and all objects it is made of or that are attached to one of them. -/
def objects : Delayable → List Delayable
  | job id next => job id next :: objectsAll next
  | chain id first rest next =>
      chain id first rest next :: (first.objects ++ objectsAll rest ++ objectsAll next)
  | group id elements next =>
      group id elements next :: (objectsAll elements ++ objectsAll next)

/-- Objects of a list of objects. -/
def objectsAll : List Delayable → List Delayable
  | [] => []
  | element :: elements => element.objects ++ objectsAll elements

end

/-- Number of a single job. -/
def jobId? : Delayable → Option ℕ
  | job id _ => some id
  | _ => none

/-- The jobs of the objects. -/
def jobs (delayable : Delayable) : List ℕ := delayable.objects.filterMap jobId?

/-- The objects have distinct numbers. -/
def Distinct (delayable : Delayable) : Prop := (delayable.objects.map id).Nodup

/-- The objects a delayable is directly made of and those directly attached to it. -/
def parts : Delayable → List Delayable
  | job _ next => next
  | chain _ first rest next => first :: rest ++ next
  | group _ elements next => elements ++ next

theorem induct {motive : Delayable → Prop}
    (job : ∀ id next, (∀ child ∈ next, motive child) → motive (job id next))
    (chain : ∀ id first rest next, motive first → (∀ element ∈ rest, motive element) →
      (∀ child ∈ next, motive child) → motive (chain id first rest next))
    (group : ∀ id elements next, (∀ element ∈ elements, motive element) →
      (∀ child ∈ next, motive child) → motive (group id elements next))
    (delayable : Delayable) : motive delayable :=
  @Delayable.rec motive (fun list => ∀ element ∈ list, motive element) job chain group (by simp)
    (fun _ _ head tail => by simpa using ⟨head, tail⟩) delayable

theorem headAll_eq (elements : List Delayable) : headAll elements = elements.flatMap head := by
  induction elements with
  | nil => rfl
  | cons element elements induction => rw [headAll, induction, List.flatMap_cons]

theorem tailAll_eq (elements : List Delayable) : tailAll elements = elements.flatMap tail := by
  induction elements with
  | nil => rfl
  | cons element elements induction => rw [tailAll, induction, List.flatMap_cons]

theorem objectsAll_eq (elements : List Delayable) :
    objectsAll elements = elements.flatMap objects := by
  induction elements with
  | nil => rfl
  | cons element elements induction => rw [objectsAll, induction, List.flatMap_cons]

theorem inductParts {motive : Delayable → Prop}
    (step : ∀ delayable, (∀ part ∈ delayable.parts, motive part) → motive delayable)
    (delayable : Delayable) : motive delayable := by
  induction delayable using induct with
  | job id next inNext => exact step _ inNext
  | chain id first rest next inFirst inRest inNext =>
      refine step _ fun part member => ?_
      obtain member | member := List.mem_append.mp member
      · obtain rfl | member := List.mem_cons.mp member
        · exact inFirst
        · exact inRest part member
      · exact inNext part member
  | group id elements next inElements inNext =>
      refine step _ fun part member => ?_
      obtain member | member := List.mem_append.mp member
      · exact inElements part member
      · exact inNext part member

theorem objects_eq (delayable : Delayable) :
    delayable.objects = delayable :: delayable.parts.flatMap objects := by
  cases delayable <;> simp [objects, parts, objectsAll_eq]

theorem mem_objects {delayable object : Delayable} :
    object ∈ delayable.objects ↔
      object = delayable ∨ ∃ part ∈ delayable.parts, object ∈ part.objects := by
  rw [objects_eq, List.mem_cons, List.mem_flatMap]

theorem mem_objects_self (delayable : Delayable) : delayable ∈ delayable.objects := by
  exact mem_objects.mpr (Or.inl rfl)

/-- Objects of an object of a delayable are its objects. -/
theorem objects_trans {delayable object inner : Delayable} (member : object ∈ delayable.objects)
    (inside : inner ∈ object.objects) : inner ∈ delayable.objects := by
  induction delayable using inductParts with
  | step delayable induction =>
      obtain rfl | ⟨part, listed, member⟩ := mem_objects.mp member
      · exact inside
      · exact mem_objects.mpr (Or.inr ⟨part, listed, induction part listed member⟩)

theorem mem_jobs {delayable : Delayable} {node : ℕ} :
    node ∈ delayable.jobs ↔ ∃ next, job node next ∈ delayable.objects := by
  rw [jobs, List.mem_filterMap]
  constructor
  · rintro ⟨object, member, found⟩
    cases object with
    | job id next =>
        obtain rfl := Option.some.inj found
        exact ⟨next, member⟩
    | chain id first rest next => contradiction
    | group id elements next => contradiction
  · rintro ⟨next, member⟩
    exact ⟨_, member, rfl⟩

end Delayable

/-- A graph of jobs: for each job the jobs that depend on it. -/
abbrev JobGraph := Dict ℕ (Finset ℕ)

namespace JobGraph

/-- The tails of a vertex with the heads of its neighbours. -/
def connections (graph : List (Delayable × List Delayable)) : List (ℕ × Finset ℕ) :=
  graph.flatMap fun vertex =>
    vertex.1.tail.map fun tail => (tail, (Delayable.headAll vertex.2).toFinset)

/-- `_merge_graph`: connect the tails of each vertex with the heads of its neighbours. -/
def mergeGraph (jobs : JobGraph) (graph : List (Delayable × List Delayable)) : JobGraph :=
  Dict.updateAll Prod.fst (fun connection heads => heads.getD ∅ ∪ connection.2) jobs
    (connections graph)

/-- Merge the small graphs of the vertices of an object's small graph. -/
def mergeVertices (jobs : JobGraph) (current : Delayable) : JobGraph :=
  current.vertices.foldl (fun jobs vertex => jobs.mergeGraph vertex.graph) jobs

/-- `_connect_graphs`, called for the small graph of an object. The stack never holds more than one
entry for each vertex of each small graph. -/
def connectGraphs (delayable : Delayable) : JobGraph :=
  visit Delayable.vertices Delayable.id mergeVertices
    (1 + (delayable.objects.map fun object => object.vertices.length).sum)
    (mergeGraph ∅ delayable.graph) [] [delayable]

/-- Jobs that depend on a job. -/
def neighbours (jobs : JobGraph) (job : ℕ) : Finset ℕ := (jobs.get? job).getD ∅

/-- `vertices`. -/
def vertices (jobs : JobGraph) : Finset ℕ := jobs.keys.toFinset

/-- `root_vertices`: jobs that depend on no other. -/
def rootVertices (jobs : JobGraph) : Finset ℕ :=
  jobs.vertices \ jobs.keys.toFinset.biUnion jobs.neighbours

/-- Number of edges that end at a job. -/
def dependsPerNode (jobs : JobGraph) (node : ℕ) : ℤ :=
  (jobs.vertices.filter fun job => node ∈ jobs.neighbours job).card

/-- A list that a loop over a set may go through: every element once, in any order. -/
def Iterates (list : List ℕ) (set : Finset ℕ) : Prop := list.Nodup ∧ list.toFinset = set

/-- `topological_sort`, with the orders in which the loops go through the sets of roots and of
neighbours. -/
def topologicalSort (jobs : JobGraph) (roots : List ℕ) (order : ℕ → List ℕ) : List ℕ :=
  sortQueue order jobs.keys.length jobs.dependsPerNode roots

end JobGraph

/-- An expression that builds delayables. Each `delayable` makes a new single job, and a chain
needs a first element. -/
inductive JobExpression where
  | delayable
  | chain (first : JobExpression) (rest : List JobExpression)
  | group (elements : List JobExpression)
  | onDone (receiver : JobExpression) (children : List JobExpression)

namespace JobExpression

mutual

/-- Evaluate an expression; the numbers of new objects are counted up. -/
def evaluate : JobExpression → ℕ → Delayable × ℕ
  | delayable, fresh => (.job fresh [], fresh + 1)
  | chain first rest, fresh =>
      let first := first.evaluate fresh
      let rest := evaluateAll rest first.2
      (.chain rest.2 first.1 rest.1 [], rest.2 + 1)
  | group elements, fresh =>
      let elements := evaluateAll elements fresh
      (.group elements.2 elements.1 [], elements.2 + 1)
  | onDone receiver children, fresh =>
      let receiver := receiver.evaluate fresh
      let children := evaluateAll children receiver.2
      (receiver.1.onDone children.1, children.2)

/-- Evaluate arguments from left to right. -/
def evaluateAll : List JobExpression → ℕ → List Delayable × ℕ
  | [], fresh => ([], fresh)
  | argument :: arguments, fresh =>
      let argument := argument.evaluate fresh
      let arguments := evaluateAll arguments argument.2
      (argument.1 :: arguments.1, arguments.2)

end

/-- The object an expression builds. -/
def build (expression : JobExpression) : Delayable := (expression.evaluate 0).1

end JobExpression

end OdooConnector.Queue
