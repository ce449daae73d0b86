import OdooConnector.Library.Network
import OdooConnector.Queue.Delayable

/-!
# Order of the jobs of an expression

The network of a delayable says between which jobs the heads and tails of its parts make edges and
which jobs are meant to wait for which. Whether the edges order what is meant to be ordered is
decided from the shape of the expression.
-/

namespace OdooConnector.Queue

open Network Relation

/-- Heads of the last network. -/
def lastHeads (first : Network ℕ) : List (Network ℕ) → Set ℕ
  | [] => first.heads
  | next :: rest => lastHeads next rest

theorem lastHeads_own (first : Network ℕ) (rest : List (Network ℕ)) :
    lastHeads first rest ⊆ (path first rest).own := by
  induction rest generalizing first with
  | nil => exact first.heads_own
  | cons next rest induction => exact fun _ member => Or.inr (induction next member)

theorem firstTails_own (first : Network ℕ) (rest : List (Network ℕ)) :
    first.tails ⊆ (path first rest).own := by
  cases rest with
  | nil => exact first.tails_own
  | cons next rest => exact fun _ member => Or.inl (first.tails_own member)

/-- A chain as others see it: entered at the tails of its first element and left at the heads of
its last one. -/
def swapped (first : Network ℕ) (rest : List (Network ℕ)) : Network ℕ :=
  (path first rest).via first.tails (lastHeads first rest) (firstTails_own first rest)
    (lastHeads_own first rest)

theorem swapped_exits (first : Network ℕ) (rest : List (Network ℕ)) :
    (path first rest).tails ⊆ (swapped first rest).own := (path first rest).tails_own

/-- What is decided about a delayable from its shape. -/
structure Shape where
  /-- It has jobs. -/
  any : Bool
  /-- It has jobs of its own, besides those attached with `on_done`. -/
  own : Bool
  /-- Its jobs are ordered as they are meant to be. -/
  ordered : Bool
  /-- Every job is reached from its heads. -/
  springsHeads : Bool
  /-- Every job is reached from its tails. -/
  springsTails : Bool
  /-- Every job of its own leads to a tail. -/
  drainsTails : Bool
  /-- Every job of its own leads to a head. -/
  drainsHeads : Bool
  deriving DecidableEq, Repr

/-- What is decided about a chain: how others see it, whether every job is reached from the heads
of its first element, and whether every job of its own leads to a tail of its last element. -/
structure ChainShape extends Shape where
  springsFirst : Bool
  drainsLast : Bool

namespace Shape

/-- No objects. -/
def none : Shape := ⟨false, false, true, true, true, true, true⟩

/-- A single job. -/
def job : Shape := ⟨true, true, true, true, true, true, true⟩

/-- Two objects side by side. -/
def beside (first second : Shape) : Shape where
  any := first.any || second.any
  own := first.own || second.own
  ordered := first.ordered && second.ordered
  springsHeads := first.springsHeads && second.springsHeads
  springsTails := first.springsTails && second.springsTails
  drainsTails := first.drainsTails && second.drainsTails
  drainsHeads := first.drainsHeads && second.drainsHeads

/-- Objects side by side. -/
def alongside (shapes : List Shape) : Shape := shapes.foldr beside none

/-- An object attached to another one, whose own jobs lead to the place of attachment or not. -/
def attach (receiver : Shape) (drained : Bool) (children : Shape) : Shape where
  any := receiver.any || children.any
  own := receiver.own
  ordered := receiver.ordered && children.ordered &&
    (!receiver.own || !children.any || (drained && children.springsHeads))
  springsHeads := receiver.springsHeads && (!children.any || receiver.own)
  springsTails := receiver.springsTails && (!children.any || receiver.own)
  drainsTails := receiver.drainsTails
  drainsHeads := receiver.drainsHeads

/-- A chain: of one element, or of an element before a chain. -/
def chain (first : Shape) : List Shape → ChainShape
  | [] =>
      { any := first.any
        own := first.own
        ordered := first.ordered
        springsHeads := first.springsTails
        springsTails := first.springsHeads
        drainsTails := first.drainsHeads
        drainsHeads := first.drainsTails
        springsFirst := first.springsHeads
        drainsLast := first.drainsTails }
  | next :: rest =>
      let later := chain next rest
      { any := first.any || later.any
        own := first.own || later.own
        ordered := first.ordered && later.ordered &&
          (!first.own || !later.any || (first.drainsTails && later.springsFirst))
        springsHeads := first.springsTails && (!later.any || first.own)
        springsTails := later.springsTails && !first.any
        drainsTails := later.drainsTails && (!first.own || later.own)
        drainsHeads := first.drainsTails && !later.own
        springsFirst := first.springsHeads && (!later.any || first.own)
        drainsLast := later.drainsLast && (!first.own || later.own) }

end Shape

/-- A shape describes a network. What is said about reachability is said of ordered networks. -/
structure Describes (shape : Shape) (network : Network ℕ) : Prop where
  any : shape.any = true ↔ network.all.Nonempty
  own : shape.own = true ↔ network.own.Nonempty
  ordered : shape.ordered = true ↔ network.Ordered
  springsHeads : network.Ordered → (shape.springsHeads = true ↔ network.Springs network.heads)
  springsTails : network.Ordered → (shape.springsTails = true ↔ network.Springs network.tails)
  drainsTails : network.Ordered → (shape.drainsTails = true ↔ network.Drains network.tails)
  drainsHeads : network.Ordered → (shape.drainsHeads = true ↔ network.Drains network.heads)

/-- A shape describes a chain of networks. -/
structure DescribesChain (shape : ChainShape) (first : Network ℕ) (rest : List (Network ℕ)) :
    Prop extends Describes shape.toShape (swapped first rest) where
  springsFirst : (path first rest).Ordered →
    (shape.springsFirst = true ↔ (path first rest).Springs (path first rest).heads)
  drainsLast : (path first rest).Ordered →
    (shape.drainsLast = true ↔ (path first rest).Drains (path first rest).tails)

theorem describes_none : Describes Shape.none Network.empty where
  any := by simp [Shape.none, Network.empty]
  own := by simp [Shape.none, Network.empty]
  ordered := by simp [Shape.none, Network.empty, Network.Ordered]
  springsHeads := by simp [Shape.none, Network.empty, Network.Springs]
  springsTails := by simp [Shape.none, Network.empty, Network.Springs]
  drainsTails := by simp [Shape.none, Network.empty, Network.Drains]
  drainsHeads := by simp [Shape.none, Network.empty, Network.Drains]

theorem describes_job (id : ℕ) : Describes Shape.job (Network.single id) := by
  have stays : ∀ node ∈ ({id} : Set ℕ), ∃ other ∈ ({id} : Set ℕ),
      ReflTransGen (Network.single id).edge other node := fun node member => ⟨node, member, .refl⟩
  have leads : ∀ node ∈ ({id} : Set ℕ), ∃ other ∈ ({id} : Set ℕ),
      ReflTransGen (Network.single id).edge node other := fun node member => ⟨node, member, .refl⟩
  exact
    { any := by simp [Shape.job, Network.single]
      own := by simp [Shape.job, Network.single]
      ordered := by simp [Shape.job, Network.single, Network.Ordered]
      springsHeads := fun _ => ⟨fun _ => stays, fun _ => rfl⟩
      springsTails := fun _ => ⟨fun _ => stays, fun _ => rfl⟩
      drainsTails := fun _ => ⟨fun _ => leads, fun _ => rfl⟩
      drainsHeads := fun _ => ⟨fun _ => leads, fun _ => rfl⟩ }

section Combine

variable {left right : Shape} {first second : Network ℕ}
variable (describesFirst : Describes left first) (describesSecond : Describes right second)
variable (apart : Disjoint first.all second.all)
include describesFirst describesSecond apart

theorem describes_beside : Describes (left.beside right) (first.beside second) where
  any := by
    rw [Shape.beside, Bool.or_eq_true, describesFirst.any, describesSecond.any]
    exact Set.union_nonempty.symm
  own := by
    rw [Shape.beside, Bool.or_eq_true, describesFirst.own, describesSecond.own]
    exact Set.union_nonempty.symm
  ordered := by
    rw [beside_ordered apart, Shape.beside, Bool.and_eq_true, describesFirst.ordered,
      describesSecond.ordered]
  springsHeads ordered := by
    obtain ⟨orderedFirst, orderedSecond⟩ := (beside_ordered apart).mp ordered
    rw [Shape.beside, Bool.and_eq_true, describesFirst.springsHeads orderedFirst,
      describesSecond.springsHeads orderedSecond]
    exact (beside_springs apart (first.heads_own.trans first.own_all)
      (second.heads_own.trans second.own_all)).symm
  springsTails ordered := by
    obtain ⟨orderedFirst, orderedSecond⟩ := (beside_ordered apart).mp ordered
    rw [Shape.beside, Bool.and_eq_true, describesFirst.springsTails orderedFirst,
      describesSecond.springsTails orderedSecond]
    exact (beside_springs apart (first.tails_own.trans first.own_all)
      (second.tails_own.trans second.own_all)).symm
  drainsTails ordered := by
    obtain ⟨orderedFirst, orderedSecond⟩ := (beside_ordered apart).mp ordered
    rw [Shape.beside, Bool.and_eq_true, describesFirst.drainsTails orderedFirst,
      describesSecond.drainsTails orderedSecond]
    exact (beside_drains apart (first.tails_own.trans first.own_all)
      (second.tails_own.trans second.own_all)).symm
  drainsHeads ordered := by
    obtain ⟨orderedFirst, orderedSecond⟩ := (beside_ordered apart).mp ordered
    rw [Shape.beside, Bool.and_eq_true, describesFirst.drainsHeads orderedFirst,
      describesSecond.drainsHeads orderedSecond]
    exact (beside_drains apart (first.heads_own.trans first.own_all)
      (second.heads_own.trans second.own_all)).symm

theorem describes_attach {exits : Set ℕ} (exits_own : exits ⊆ first.own) {drained : Bool}
    (drains : first.Ordered → (drained = true ↔ first.Drains exits)) :
    Describes (left.attach drained right) (first.attach second exits exits_own) where
  any := by
    rw [Shape.attach, Bool.or_eq_true, describesFirst.any, describesSecond.any]
    exact Set.union_nonempty.symm
  own := describesFirst.own
  ordered := by
    refine Iff.trans ?_ (join_ordered exits_own apart).symm
    rw [← describesFirst.ordered, ← describesSecond.ordered, ← describesFirst.own,
      ← describesSecond.any]
    simp only [Shape.attach, Bool.and_eq_true, Bool.or_eq_true, Bool.not_eq_true']
    rw [and_assoc]
    refine and_congr_right fun orderedFirst => and_congr_right fun orderedSecond => ?_
    rw [drains (describesFirst.ordered.mp orderedFirst),
      describesSecond.springsHeads (describesSecond.ordered.mp orderedSecond)]
    cases left.own <;> cases right.any <;> simp
  springsHeads ordered := by
    have orderedFirst := ((join_ordered exits_own apart).mp ordered).1
    refine Iff.trans ?_ (join_springs_left exits_own apart ordered first.heads_own).symm
    rw [← describesFirst.springsHeads orderedFirst, ← describesFirst.own, ← describesSecond.any]
    simp [Shape.attach, imp_iff_not_or]
  springsTails ordered := by
    have orderedFirst := ((join_ordered exits_own apart).mp ordered).1
    refine Iff.trans ?_ (join_springs_left exits_own apart ordered first.tails_own).symm
    rw [← describesFirst.springsTails orderedFirst, ← describesFirst.own, ← describesSecond.any]
    simp [Shape.attach, imp_iff_not_or]
  drainsTails ordered := by
    have orderedFirst := ((join_ordered exits_own apart).mp ordered).1
    exact (describesFirst.drainsTails orderedFirst).trans
      (attach_drains exits_own apart first.tails_own).symm
  drainsHeads ordered := by
    have orderedFirst := ((join_ordered exits_own apart).mp ordered).1
    exact (describesFirst.drainsHeads orderedFirst).trans
      (attach_drains exits_own apart first.heads_own).symm

end Combine

theorem describes_single_chain {shape : Shape} {first : Network ℕ}
    (describes : Describes shape first) : DescribesChain (Shape.chain shape []) first [] where
  any := describes.any
  own := describes.own
  ordered := describes.ordered
  springsHeads := describes.springsTails
  springsTails := describes.springsHeads
  drainsTails := describes.drainsHeads
  drainsHeads := describes.drainsTails
  springsFirst := describes.springsHeads
  drainsLast := describes.drainsTails

section Chain

variable {shape nextShape : Shape} {first next : Network ℕ}
variable {shapes : List Shape} {rest : List (Network ℕ)}

theorem describes_longer_chain (describesFirst : Describes shape first)
    (describesRest : DescribesChain (Shape.chain nextShape shapes) next rest)
    (apart : Disjoint first.all (path next rest).all) :
    DescribesChain (Shape.chain shape (nextShape :: shapes)) first (next :: rest) := by
  have parts (ordered : (path first (next :: rest)).Ordered) :
      first.Ordered ∧ (path next rest).Ordered :=
    ⟨((join_ordered first.tails_own apart).mp ordered).1,
      ((join_ordered first.tails_own apart).mp ordered).2.1⟩
  refine ⟨⟨?_, ?_, ?_, fun ordered => ?_, fun ordered => ?_, fun ordered => ?_,
    fun ordered => ?_⟩, fun ordered => ?_, fun ordered => ?_⟩
  · rw [Shape.chain, Bool.or_eq_true, describesFirst.any, describesRest.any]
    exact Set.union_nonempty.symm
  · rw [Shape.chain, Bool.or_eq_true, describesFirst.own, describesRest.own]
    exact Set.union_nonempty.symm
  · refine Iff.trans ?_ (join_ordered first.tails_own apart).symm
    have restOrdered : (Shape.chain nextShape shapes).ordered = true ↔ (path next rest).Ordered :=
      describesRest.ordered
    have restAny : (Shape.chain nextShape shapes).any = true ↔ (path next rest).all.Nonempty :=
      describesRest.any
    rw [← describesFirst.ordered, ← restOrdered, ← describesFirst.own, ← restAny]
    simp only [Shape.chain, Bool.and_eq_true, Bool.or_eq_true, Bool.not_eq_true']
    rw [and_assoc]
    refine and_congr_right fun orderedFirst => and_congr_right fun orderedRest => ?_
    rw [describesFirst.drainsTails (describesFirst.ordered.mp orderedFirst),
      describesRest.springsFirst (restOrdered.mp orderedRest)]
    cases shape.own <;> cases (Shape.chain nextShape shapes).any <;> simp
  · refine Iff.trans ?_ (join_springs_left first.tails_own apart ordered first.tails_own).symm
    rw [← describesFirst.springsTails (parts ordered).1, ← describesFirst.own]
    have restAny : (Shape.chain nextShape shapes).any = true ↔ (path next rest).all.Nonempty :=
      describesRest.any
    rw [← restAny]
    simp [Shape.chain, imp_iff_not_or]
  · refine Iff.trans ?_ (join_springs_right first.tails_own apart
      ((lastHeads_own next rest).trans (path next rest).own_all)).symm
    have restSprings : (Shape.chain nextShape shapes).springsTails = true ↔
        (path next rest).Springs (lastHeads next rest) :=
      describesRest.springsTails (parts ordered).2
    rw [← describesFirst.any, ← restSprings]
    simp [Shape.chain]
  · refine Iff.trans ?_ (join_drains_right first.tails_own apart ordered
      (lastHeads_own next rest)).symm
    have restDrains : (Shape.chain nextShape shapes).drainsTails = true ↔
        (path next rest).Drains (lastHeads next rest) :=
      describesRest.drainsTails (parts ordered).2
    have restOwn : (Shape.chain nextShape shapes).own = true ↔ (path next rest).own.Nonempty :=
      describesRest.own
    rw [← describesFirst.own, ← restDrains, ← restOwn]
    simp [Shape.chain, imp_iff_not_or]
  · refine Iff.trans ?_ (join_drains_left first.tails_own apart first.tails_own).symm
    have restOwn : (Shape.chain nextShape shapes).own = true ↔ (path next rest).own.Nonempty :=
      describesRest.own
    rw [← describesFirst.drainsTails (parts ordered).1, ← restOwn]
    simp [Shape.chain]
  · refine Iff.trans ?_ (join_springs_left first.tails_own apart ordered first.heads_own).symm
    have restAny : (Shape.chain nextShape shapes).any = true ↔ (path next rest).all.Nonempty :=
      describesRest.any
    rw [← describesFirst.springsHeads (parts ordered).1, ← describesFirst.own, ← restAny]
    simp [Shape.chain, imp_iff_not_or]
  · refine Iff.trans ?_ (join_drains_right first.tails_own apart ordered
      (path next rest).tails_own).symm
    have restOwn : (Shape.chain nextShape shapes).own = true ↔ (path next rest).own.Nonempty :=
      describesRest.own
    rw [← describesFirst.own, ← describesRest.drainsLast (parts ordered).2, ← restOwn]
    simp [Shape.chain, imp_iff_not_or]

end Chain

theorem describes_chain {shape : Shape} {first : Network ℕ} {shapes : List Shape}
    {rest : List (Network ℕ)} (describes : Describes shape first)
    (describesRest : List.Forall₂ Describes shapes rest)
    (separate : (first :: rest).Pairwise fun left right => Disjoint left.all right.all) :
    DescribesChain (Shape.chain shape shapes) first rest := by
  induction describesRest generalizing shape first with
  | nil => exact describes_single_chain describes
  | cons describesNext _ induction =>
      exact describes_longer_chain describes
        (induction describesNext (List.pairwise_cons.mp separate).2) (path_apart separate)

theorem describes_alongside {shapes : List Shape} {networks : List (Network ℕ)}
    (describes : List.Forall₂ Describes shapes networks)
    (separate : networks.Pairwise fun left right => Disjoint left.all right.all) :
    Describes (Shape.alongside shapes) (alongside networks) := by
  induction describes with
  | nil => exact describes_none
  | cons describesFirst _ induction =>
      exact describes_beside describesFirst (induction (List.pairwise_cons.mp separate).2)
        (alongside_apart separate)

namespace Delayable

mutual

/-- The edges that heads and tails make between the jobs of a delayable, and the order meant by
chains and by `on_done`: everything attached with `on_done` waits for the receiver's own jobs. -/
def network : Delayable → Network ℕ
  | job id next =>
      (single id).attach (alongside (networks next)) (single id).tails (single id).tails_own
  | chain _ first rest next =>
      (swapped first.network (networks rest)).attach (alongside (networks next))
        (path first.network (networks rest)).tails (swapped_exits first.network (networks rest))
  | group _ elements next =>
      (alongside (networks elements)).attach (alongside (networks next))
        (alongside (networks elements)).tails (alongside (networks elements)).tails_own

/-- Networks of the objects of a list. -/
def networks : List Delayable → List (Network ℕ)
  | [] => []
  | element :: elements => element.network :: networks elements

end

mutual

/-- Shape of a delayable. -/
def shape : Delayable → Shape
  | job _ next => Shape.job.attach true (Shape.alongside (shapes next))
  | chain _ first rest next =>
      let chain := Shape.chain first.shape (shapes rest)
      chain.attach chain.drainsLast (Shape.alongside (shapes next))
  | group _ elements next =>
      let group := Shape.alongside (shapes elements)
      group.attach group.drainsTails (Shape.alongside (shapes next))

/-- Shapes of the objects of a list. -/
def shapes : List Delayable → List Shape
  | [] => []
  | element :: elements => element.shape :: shapes elements

end

theorem networks_eq (elements : List Delayable) : networks elements = elements.map network := by
  induction elements with
  | nil => rfl
  | cons element elements induction => rw [networks, induction, List.map_cons]

theorem shapes_eq (elements : List Delayable) : shapes elements = elements.map shape := by
  induction elements with
  | nil => rfl
  | cons element elements induction => rw [shapes, induction, List.map_cons]

/-- The nodes of the network are the jobs. -/
theorem mem_network_all {delayable : Delayable} {node : ℕ} :
    node ∈ delayable.network.all ↔ ∃ next, job node next ∈ delayable.objects := by
  have children (next : List Delayable) (induction : ∀ child ∈ next,
      (node ∈ child.network.all ↔ ∃ next, job node next ∈ child.objects)) :
      node ∈ (alongside (networks next)).all ↔ ∃ later, job node later ∈ objectsAll next := by
    rw [mem_alongside_all, networks_eq, objectsAll_eq]
    simp only [List.mem_map, List.mem_flatMap, exists_exists_and_eq_and]
    rw [exists_comm]
    refine exists_congr fun child => ?_
    rw [exists_and_left]
    exact and_congr_right fun member => induction child member
  induction delayable using Delayable.induct with
  | job id next inNext =>
      have hanging := children next inNext
      rw [network, objects, attach_all, Set.mem_union, hanging]
      simp [single, exists_or]
  | chain id first rest next inFirst inRest inNext =>
      have hanging := children next inNext
      have later := children rest inRest
      rw [network, objects, attach_all, Set.mem_union, hanging, swapped, via_all, mem_path_all]
      rw [mem_alongside_all] at later
      simp only [List.mem_cons, exists_eq_or_imp, later, inFirst, List.mem_append, exists_or]
      simp
  | group id elements next inElements inNext =>
      have hanging := children next inNext
      have inside := children elements inElements
      rw [network, objects, attach_all, Set.mem_union, hanging, inside]
      simp [exists_or]

theorem mem_networks_all {elements : List Delayable} {node : ℕ} :
    node ∈ (alongside (networks elements)).all ↔ ∃ next, job node next ∈ objectsAll elements := by
  rw [mem_alongside_all, networks_eq, objectsAll_eq]
  simp only [List.mem_map, List.mem_flatMap, exists_exists_and_eq_and]
  rw [exists_comm]
  refine exists_congr fun element => ?_
  rw [exists_and_left, mem_network_all]

/-- Parts with distinct objects have no job in common. -/
theorem disjoint_all {left right : Delayable}
    (apart : List.Disjoint (left.objects.map id) (right.objects.map id)) :
    Disjoint left.network.all right.network.all := by
  refine Set.disjoint_left.mpr fun node inLeft inRight => ?_
  obtain ⟨next, member⟩ := mem_network_all.mp inLeft
  obtain ⟨other, also⟩ := mem_network_all.mp inRight
  exact apart (List.mem_map.mpr ⟨_, member, rfl⟩) (List.mem_map.mpr ⟨_, also, rfl⟩)

/-- Objects of a list with distinct numbers are distinct within each element, and no two elements
share a job. -/
theorem distinct_all {elements : List Delayable}
    (distinct : ((objectsAll elements).map id).Nodup) :
    (∀ element ∈ elements, element.Distinct) ∧
      (networks elements).Pairwise fun left right => Disjoint left.all right.all := by
  rw [objectsAll_eq, List.map_flatMap, List.nodup_flatMap] at distinct
  refine ⟨distinct.1, ?_⟩
  rw [networks_eq, List.pairwise_map]
  exact distinct.2.imp disjoint_all

/-- What belongs to an object and what is attached to it have no job in common. -/
theorem disjoint_next {elements next : List Delayable}
    (distinct : ((objectsAll elements ++ objectsAll next).map id).Nodup) :
    Disjoint (alongside (networks elements)).all (alongside (networks next)).all := by
  rw [List.map_append, List.nodup_append] at distinct
  refine Set.disjoint_left.mpr fun node inLeft inRight => ?_
  obtain ⟨after, found⟩ := mem_networks_all.mp inLeft
  obtain ⟨later, again⟩ := mem_networks_all.mp inRight
  exact distinct.2.2 node (List.mem_map.mpr ⟨_, found, rfl⟩) node
    (List.mem_map.mpr ⟨_, again, rfl⟩) rfl

/-- What the network of an object is known to be. -/
structure Known (delayable : Delayable) : Prop where
  describes : Describes delayable.shape delayable.network
  independent : delayable.network.Independent
  acyclic : ∀ node, ¬ TransGen delayable.network.edge node node
  strict : delayable.network.Strict

theorem Known.sound {delayable : Delayable} (known : delayable.Known) : delayable.network.Sound :=
  ⟨known.independent, known.acyclic, known.strict⟩

theorem known_of_sound {delayable : Delayable}
    (describes : Describes delayable.shape delayable.network)
    (sound : delayable.network.Sound) : delayable.Known :=
  ⟨describes, sound.independent, sound.acyclic, sound.strict⟩

theorem sound_networks {elements : List Delayable} (known : ∀ element ∈ elements, element.Known) :
    ∀ network ∈ networks elements, network.Sound := by
  intro network member
  rw [networks_eq] at member
  obtain ⟨element, listed, rfl⟩ := List.mem_map.mp member
  exact (known element listed).sound

theorem forall₂_describes {elements : List Delayable}
    (known : ∀ element ∈ elements, element.Known) :
    List.Forall₂ (fun shape network => Describes shape network) (shapes elements)
      (networks elements) := by
  rw [shapes_eq, networks_eq, List.forall₂_map_left_iff, List.forall₂_map_right_iff,
    List.forall₂_same]
  exact fun element member => (known element member).describes

theorem known_all {elements : List Delayable} (known : ∀ element ∈ elements, element.Known)
    (separate : (networks elements).Pairwise fun left right => Disjoint left.all right.all) :
    Describes (Shape.alongside (shapes elements)) (alongside (networks elements)) ∧
      (alongside (networks elements)).Sound :=
  ⟨describes_alongside (forall₂_describes known) separate,
    sound_alongside separate (sound_networks known)⟩

theorem sound_single (id : ℕ) : (single id).Sound where
  independent _ _ := False.elim
  acyclic node cycle := by
    obtain ⟨_, -, edge⟩ := TransGen.tail'_iff.mp cycle
    exact edge.elim
  strict _ := False.elim

/-- The shape of an object with distinct parts describes its network. -/
theorem known (delayable : Delayable) (distinct : delayable.Distinct) : delayable.Known := by
  induction delayable using Delayable.induct with
  | job id next inNext =>
      rw [Distinct, objects, List.map_cons, List.nodup_cons] at distinct
      obtain ⟨fresh, distinct⟩ := distinct
      obtain ⟨each, separate⟩ := distinct_all distinct
      obtain ⟨describes, sound⟩ :=
        known_all (fun child member => inNext child member (each child member)) separate
      have apart : Disjoint (single id).all (alongside (networks next)).all := by
        refine Set.disjoint_singleton_left.mpr fun inside => fresh ?_
        obtain ⟨after, found⟩ := mem_networks_all.mp inside
        exact List.mem_map.mpr ⟨_, found, rfl⟩
      refine known_of_sound ?_ (sound_attach (single id).tails_own apart (sound_single id) sound)
      exact describes_attach (describes_job id) describes apart _
        fun _ => ⟨fun _ node member => ⟨node, member, .refl⟩, fun _ => rfl⟩
  | chain id first rest next inFirst inRest inNext =>
      rw [Distinct, objects, ← objectsAll, List.map_cons, List.nodup_cons] at distinct
      have alongsideApart := disjoint_next distinct.2
      rw [List.map_append, List.nodup_append] at distinct
      obtain ⟨eachElement, separate⟩ := distinct_all distinct.2.1
      obtain ⟨eachChild, separateNext⟩ := distinct_all distinct.2.2.1
      obtain ⟨describesNext, soundNext⟩ :=
        known_all (fun child member => inNext child member (eachChild child member)) separateNext
      have knownElement : ∀ element ∈ first :: rest, element.Known := by
        rintro element (_ | ⟨_, member⟩)
        · exact inFirst (eachElement first List.mem_cons_self)
        · exact inRest element member (eachElement element (List.mem_cons_of_mem _ member))
      have apart : Disjoint (path first.network (networks rest)).all
          (alongside (networks next)).all := by
        refine Set.disjoint_left.mpr fun node inside => ?_
        rw [mem_path_all, ← networks, ← mem_alongside_all] at inside
        exact Set.disjoint_left.mp alongsideApart inside
      have describes : DescribesChain (Shape.chain first.shape (shapes rest)) first.network
          (networks rest) :=
        describes_chain (knownElement first List.mem_cons_self).describes
          (forall₂_describes fun element member =>
            knownElement element (List.mem_cons_of_mem _ member)) separate
      have sound := sound_path separate (sound_networks knownElement)
      -- Exchanging heads leaves edges and order as they are.
      have swappedSound : (swapped first.network (networks rest)).Sound :=
        ⟨sound.independent, sound.acyclic, sound.strict⟩
      refine known_of_sound ?_ (sound_attach _ apart swappedSound soundNext)
      exact describes_attach describes.toDescribes describesNext apart _ describes.drainsLast
  | group id elements next inElements inNext =>
      rw [Distinct, objects, List.map_cons, List.nodup_cons] at distinct
      have apart := disjoint_next distinct.2
      rw [List.map_append, List.nodup_append] at distinct
      obtain ⟨eachElement, separate⟩ := distinct_all distinct.2.1
      obtain ⟨eachChild, separateNext⟩ := distinct_all distinct.2.2.1
      obtain ⟨describes, sound⟩ :=
        known_all (fun child member => inElements child member (eachElement child member)) separate
      obtain ⟨describesNext, soundNext⟩ :=
        known_all (fun child member => inNext child member (eachChild child member)) separateNext
      refine known_of_sound ?_
        (sound_attach (alongside (networks elements)).tails_own apart sound soundNext)
      exact describes_attach describes describesNext apart _ describes.drainsTails

end Delayable

end OdooConnector.Queue
