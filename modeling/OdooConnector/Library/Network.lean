import Mathlib.Data.Set.Lattice
import Mathlib.Logic.Relation
import Mathlib.Order.CompletePartialOrder

/-!
# Networks put together in series and in parallel

A network has nodes, edges between them, entries and exits. Two networks with no common node are
joined by edges from some nodes of the first to some nodes of the second. What is reachable in the
joined network is described by what is reachable in its parts.
-/

namespace OdooConnector

open Relation

variable {α : Type*}

/-- A relation with the edges of two relations and all edges between two sets. -/
def Joined (first second : α → α → Prop) (exits entries : Set α) (source target : α) : Prop :=
  first source target ∨ second source target ∨ (source ∈ exits ∧ target ∈ entries)

/-- Two relations on sets with no common element, and the places where they are joined. -/
structure Joint (first second : α → α → Prop) (exits entries left right : Set α) : Prop where
  inLeft : ∀ source target, first source target → source ∈ left ∧ target ∈ left
  inRight : ∀ source target, second source target → source ∈ right ∧ target ∈ right
  apart : Disjoint left right
  exitsLeft : exits ⊆ left
  entriesRight : entries ⊆ right

namespace Joint

variable {first second : α → α → Prop} {exits entries left right : Set α}
variable (joint : Joint first second exits entries left right)
include joint

theorem not_both {node : α} (inLeft : node ∈ left) (inRight : node ∈ right) : False :=
  Set.disjoint_left.mp joint.apart inLeft inRight

theorem within (source target : α) (edge : Joined first second exits entries source target) :
    source ∈ left ∪ right ∧ target ∈ left ∪ right := by
  obtain edge | edge | ⟨leaves, enters⟩ := edge
  · exact ⟨Or.inl (joint.inLeft _ _ edge).1, Or.inl (joint.inLeft _ _ edge).2⟩
  · exact ⟨Or.inr (joint.inRight _ _ edge).1, Or.inr (joint.inRight _ _ edge).2⟩
  · exact ⟨Or.inl (joint.exitsLeft leaves), Or.inr (joint.entriesRight enters)⟩

theorem edge_from_right {source target : α} (inside : source ∈ right)
    (edge : Joined first second exits entries source target) : second source target := by
  obtain edge | edge | ⟨leaves, -⟩ := edge
  · exact (joint.not_both (joint.inLeft _ _ edge).1 inside).elim
  · exact edge
  · exact (joint.not_both (joint.exitsLeft leaves) inside).elim

theorem edge_into_left {source target : α} (inside : target ∈ left)
    (edge : Joined first second exits entries source target) : first source target := by
  obtain edge | edge | ⟨-, enters⟩ := edge
  · exact edge
  · exact (joint.not_both inside (joint.inRight _ _ edge).2).elim
  · exact (joint.not_both inside (joint.entriesRight enters)).elim

/-- From the second part only the second part is reached. -/
theorem reaches_from_right {source target : α} (inside : source ∈ right) :
    ReflTransGen (Joined first second exits entries) source target ↔
      ReflTransGen second source target := by
  refine ⟨fun path => ?_, ReflTransGen.mono (fun _ _ edge => Or.inr (Or.inl edge)) _ _⟩
  suffices ReflTransGen second source target ∧ target ∈ right from this.1
  induction path with
  | refl => exact ⟨.refl, inside⟩
  | tail _ edge induction =>
      have edge := joint.edge_from_right induction.2 edge
      exact ⟨induction.1.tail edge, (joint.inRight _ _ edge).2⟩

/-- Into the first part one comes only from the first part. -/
theorem reaches_into_left {source target : α} (inside : target ∈ left) :
    ReflTransGen (Joined first second exits entries) source target ↔
      ReflTransGen first source target := by
  refine ⟨fun path => ?_, ReflTransGen.mono (fun _ _ edge => Or.inl edge) _ _⟩
  suffices ReflTransGen first source target ∧ source ∈ left from this.1
  induction path using ReflTransGen.head_induction_on with
  | refl => exact ⟨.refl, inside⟩
  | head edge _ induction =>
      have edge := joint.edge_into_left induction.2 edge
      exact ⟨.head edge induction.1, (joint.inLeft _ _ edge).1⟩

theorem not_reaches_back {source target : α} (inside : source ∈ right) (outside : target ∈ left) :
    ¬ ReflTransGen (Joined first second exits entries) source target := by
  intro path
  rw [joint.reaches_into_left outside] at path
  obtain rfl | ⟨next, edge, -⟩ := path.cases_head
  · exact joint.not_both outside inside
  · exact joint.not_both (joint.inLeft _ _ edge).1 inside

/-- A path from the first part to the second leaves by an exit and comes in by an entry. -/
theorem reaches_across {source target : α} (inside : source ∈ left) (across : target ∈ right) :
    ReflTransGen (Joined first second exits entries) source target ↔
      (∃ exit ∈ exits, ReflTransGen first source exit) ∧
        ∃ entry ∈ entries, ReflTransGen second entry target := by
  constructor
  · intro path
    induction path using ReflTransGen.head_induction_on with
    | refl => exact (joint.not_both inside across).elim
    | head edge path induction =>
        obtain edge | edge | ⟨leaves, enters⟩ := edge
        · obtain ⟨⟨exit, leaves, before⟩, after⟩ := induction (joint.inLeft _ _ edge).2
          exact ⟨⟨exit, leaves, .head edge before⟩, after⟩
        · exact (joint.not_both inside (joint.inRight _ _ edge).1).elim
        · rw [joint.reaches_from_right (joint.entriesRight enters)] at path
          exact ⟨⟨_, leaves, .refl⟩, _, enters, path⟩
  · rintro ⟨⟨exit, leaves, before⟩, entry, enters, after⟩
    have before := (joint.reaches_into_left (joint.exitsLeft leaves)).mpr before
    have after := (joint.reaches_from_right (joint.entriesRight enters)).mpr after
    exact (before.tail (Or.inr (Or.inr ⟨leaves, enters⟩))).trans after

/-- Joining networks without cycles makes no cycle. -/
theorem acyclic (acyclicLeft : ∀ node, ¬ TransGen first node node)
    (acyclicRight : ∀ node, ¬ TransGen second node node) (node : α) :
    ¬ TransGen (Joined first second exits entries) node node := by
  intro cycle
  obtain ⟨next, path, edge⟩ := TransGen.tail'_iff.mp cycle
  obtain edge | edge | ⟨leaves, enters⟩ := edge
  · rw [joint.reaches_into_left (joint.inLeft _ _ edge).1] at path
    exact acyclicLeft node (.tail' path edge)
  · rw [joint.reaches_from_right (joint.inRight _ _ edge).2] at path
    exact acyclicRight node (.tail' path edge)
  · exact joint.not_reaches_back (joint.entriesRight enters) (joint.exitsLeft leaves) path

end Joint

/-- Nodes with entries and exits, the edges between them, which node is meant to come before which,
and which nodes are meant to be independent. Nodes of its own are those that something attached to
the network has to wait for. -/
structure Network (α : Type*) where
  all : Set α
  own : Set α
  heads : Set α
  tails : Set α
  edge : α → α → Prop
  before : α → α → Prop
  free : α → α → Prop
  own_all : own ⊆ all
  heads_own : heads ⊆ own
  tails_own : tails ⊆ own
  edge_all : ∀ source target, edge source target → source ∈ all ∧ target ∈ all
  before_all : ∀ source target, before source target → source ∈ all ∧ target ∈ all
  free_all : ∀ source target, free source target → source ∈ all ∧ target ∈ all

namespace Network

/-- Everything meant to come before something else leads to it. -/
def Ordered (network : Network α) : Prop :=
  ∀ source target, network.before source target → ReflTransGen network.edge source target

/-- Nothing leads to a node that is meant to be independent of it. -/
def Independent (network : Network α) : Prop :=
  ∀ source target, network.free source target → ¬ ReflTransGen network.edge source target

/-- Every node is reached from some node of a set. -/
def Springs (network : Network α) (sources : Set α) : Prop :=
  ∀ node ∈ network.all, ∃ source ∈ sources, ReflTransGen network.edge source node

/-- Some node of a set is reached from every node of the network's own. -/
def Drains (network : Network α) (targets : Set α) : Prop :=
  ∀ node ∈ network.own, ∃ target ∈ targets, ReflTransGen network.edge node target

/-- The network without nodes. -/
def empty : Network α where
  all := ∅
  own := ∅
  heads := ∅
  tails := ∅
  edge _ _ := False
  before _ _ := False
  free _ _ := False
  own_all _ := id
  heads_own _ := id
  tails_own _ := id
  edge_all _ _ := False.elim
  before_all _ _ := False.elim
  free_all _ _ := False.elim

/-- The network of one node. -/
def single (node : α) : Network α where
  all := {node}
  own := {node}
  heads := {node}
  tails := {node}
  edge _ _ := False
  before _ _ := False
  free _ _ := False
  own_all _ := id
  heads_own _ := id
  tails_own _ := id
  edge_all _ _ := False.elim
  before_all _ _ := False.elim
  free_all _ _ := False.elim

/-- Two networks in series: edges run from exits of the first to the heads of the second, and what
is the first's own is meant to come before the whole second. -/
def join (first second : Network α) (exits : Set α) (exits_own : exits ⊆ first.own) :
    Network α where
  all := first.all ∪ second.all
  own := first.own ∪ second.own
  heads := first.heads
  tails := second.tails
  edge := Joined first.edge second.edge exits second.heads
  before source target := first.before source target ∨ second.before source target ∨
    (source ∈ first.own ∧ target ∈ second.all)
  free source target := first.free source target ∨ second.free source target
  own_all := Set.union_subset_union first.own_all second.own_all
  heads_own _ member := Or.inl (first.heads_own member)
  tails_own _ member := Or.inr (second.tails_own member)
  edge_all := by
    rintro source target (edge | edge | ⟨leaves, enters⟩)
    · exact ⟨Or.inl (first.edge_all _ _ edge).1, Or.inl (first.edge_all _ _ edge).2⟩
    · exact ⟨Or.inr (second.edge_all _ _ edge).1, Or.inr (second.edge_all _ _ edge).2⟩
    · exact ⟨Or.inl (first.own_all (exits_own leaves)),
        Or.inr (second.own_all (second.heads_own enters))⟩
  before_all := by
    rintro source target (earlier | earlier | ⟨own, later⟩)
    · exact ⟨Or.inl (first.before_all _ _ earlier).1, Or.inl (first.before_all _ _ earlier).2⟩
    · exact ⟨Or.inr (second.before_all _ _ earlier).1, Or.inr (second.before_all _ _ earlier).2⟩
    · exact ⟨Or.inl (first.own_all own), Or.inr later⟩
  free_all := by
    rintro source target (free | free)
    · exact ⟨Or.inl (first.free_all _ _ free).1, Or.inl (first.free_all _ _ free).2⟩
    · exact ⟨Or.inr (second.free_all _ _ free).1, Or.inr (second.free_all _ _ free).2⟩

/-- The first network and then the second, joined from its tails. -/
def andThen (first second : Network α) : Network α :=
  first.join second first.tails first.tails_own

/-- The second network hangs on the first: what is attached later does not wait for it. -/
def attach (first second : Network α) (exits : Set α) (exits_own : exits ⊆ first.own) :
    Network α :=
  { first.join second exits exits_own with
    own := first.own
    tails := first.tails
    own_all := fun _ member => Or.inl (first.own_all member)
    heads_own := first.heads_own
    tails_own := first.tails_own }

/-- Two networks side by side, without edges between them. -/
def beside (first second : Network α) : Network α where
  all := first.all ∪ second.all
  own := first.own ∪ second.own
  heads := first.heads ∪ second.heads
  tails := first.tails ∪ second.tails
  edge := Joined first.edge second.edge ∅ ∅
  before source target := first.before source target ∨ second.before source target
  free source target := first.free source target ∨ second.free source target ∨
    (source ∈ first.all ∧ target ∈ second.all) ∨ (source ∈ second.all ∧ target ∈ first.all)
  own_all := Set.union_subset_union first.own_all second.own_all
  heads_own := Set.union_subset_union first.heads_own second.heads_own
  tails_own := Set.union_subset_union first.tails_own second.tails_own
  edge_all := by
    rintro source target (edge | edge | ⟨leaves, -⟩)
    · exact ⟨Or.inl (first.edge_all _ _ edge).1, Or.inl (first.edge_all _ _ edge).2⟩
    · exact ⟨Or.inr (second.edge_all _ _ edge).1, Or.inr (second.edge_all _ _ edge).2⟩
    · exact leaves.elim
  before_all := by
    rintro source target (earlier | earlier)
    · exact ⟨Or.inl (first.before_all _ _ earlier).1, Or.inl (first.before_all _ _ earlier).2⟩
    · exact ⟨Or.inr (second.before_all _ _ earlier).1, Or.inr (second.before_all _ _ earlier).2⟩
  free_all := by
    rintro source target (free | free | ⟨left, right⟩ | ⟨right, left⟩)
    · exact ⟨Or.inl (first.free_all _ _ free).1, Or.inl (first.free_all _ _ free).2⟩
    · exact ⟨Or.inr (second.free_all _ _ free).1, Or.inr (second.free_all _ _ free).2⟩
    · exact ⟨Or.inl left, Or.inr right⟩
    · exact ⟨Or.inr right, Or.inl left⟩

/-- The same network with other entries and exits. -/
def via (network : Network α) (heads tails : Set α) (heads_own : heads ⊆ network.own)
    (tails_own : tails ⊆ network.own) : Network α :=
  { network with
    heads := heads
    tails := tails
    heads_own := heads_own
    tails_own := tails_own }

@[simp]
theorem via_all {network : Network α} {heads tails : Set α} {heads_own : heads ⊆ network.own}
    {tails_own : tails ⊆ network.own} :
    (network.via heads tails heads_own tails_own).all = network.all := rfl

section Join

variable {first second : Network α} {exits : Set α}

theorem join_edge {exits_own : exits ⊆ first.own} {source target : α} :
    (first.join second exits exits_own).edge source target ↔
      first.edge source target ∨ second.edge source target ∨
        (source ∈ exits ∧ target ∈ second.heads) := Iff.rfl

theorem attach_edge {exits_own : exits ⊆ first.own} {source target : α} :
    (first.attach second exits exits_own).edge source target ↔
      first.edge source target ∨ second.edge source target ∨
        (source ∈ exits ∧ target ∈ second.heads) := Iff.rfl

theorem join_before {exits_own : exits ⊆ first.own} {source target : α} :
    (first.join second exits exits_own).before source target ↔
      first.before source target ∨ second.before source target ∨
        (source ∈ first.own ∧ target ∈ second.all) := Iff.rfl

theorem attach_before {exits_own : exits ⊆ first.own} {source target : α} :
    (first.attach second exits exits_own).before source target ↔
      first.before source target ∨ second.before source target ∨
        (source ∈ first.own ∧ target ∈ second.all) := Iff.rfl

@[simp]
theorem attach_own {exits_own : exits ⊆ first.own} :
    (first.attach second exits exits_own).own = first.own := rfl

@[simp]
theorem attach_all {exits_own : exits ⊆ first.own} :
    (first.attach second exits exits_own).all = first.all ∪ second.all := rfl

@[simp]
theorem attach_heads {exits_own : exits ⊆ first.own} :
    (first.attach second exits exits_own).heads = first.heads := rfl

@[simp]
theorem attach_tails {exits_own : exits ⊆ first.own} :
    (first.attach second exits exits_own).tails = first.tails := rfl

theorem joint_join (exits_own : exits ⊆ first.own) (apart : Disjoint first.all second.all) :
    Joint first.edge second.edge exits second.heads first.all second.all where
  inLeft := first.edge_all
  inRight := second.edge_all
  apart := apart
  exitsLeft _ member := first.own_all (exits_own member)
  entriesRight _ member := second.own_all (second.heads_own member)

variable (exits_own : exits ⊆ first.own) (apart : Disjoint first.all second.all)
include apart

/-- A series is ordered when its parts are and, where something has to wait, the first drains into
the exits and the second springs from its heads. -/
theorem join_ordered : (first.join second exits exits_own).Ordered ↔
    first.Ordered ∧ second.Ordered ∧ (first.own.Nonempty → second.all.Nonempty →
      first.Drains exits ∧ second.Springs second.heads) := by
  have joint := joint_join exits_own apart
  constructor
  · intro ordered
    refine ⟨fun source target earlier => ?_, fun source target earlier => ?_,
      fun ⟨owned, own⟩ ⟨later, follows⟩ => ⟨fun node member => ?_, fun node member => ?_⟩⟩
    · exact (joint.reaches_into_left (first.before_all _ _ earlier).2).mp
        (ordered _ _ (Or.inl earlier))
    · exact (joint.reaches_from_right (second.before_all _ _ earlier).1).mp
        (ordered _ _ (Or.inr (Or.inl earlier)))
    · exact ((joint.reaches_across (first.own_all member) follows).mp
        (ordered _ _ (Or.inr (Or.inr ⟨member, follows⟩)))).1
    · exact ((joint.reaches_across (first.own_all own) member).mp
        (ordered _ _ (Or.inr (Or.inr ⟨own, member⟩)))).2
  · rintro ⟨orderedFirst, orderedSecond, waits⟩ source target (earlier | earlier | ⟨own, later⟩)
    · exact (joint.reaches_into_left (first.before_all _ _ earlier).2).mpr
        (orderedFirst _ _ earlier)
    · exact (joint.reaches_from_right (second.before_all _ _ earlier).1).mpr
        (orderedSecond _ _ earlier)
    · obtain ⟨drains, springs⟩ := waits ⟨_, own⟩ ⟨_, later⟩
      exact (joint.reaches_across (first.own_all own) later).mpr
        ⟨drains _ own, springs _ later⟩

theorem join_independent (freeFirst : first.Independent) (freeSecond : second.Independent) :
    (first.join second exits exits_own).Independent := by
  have joint := joint_join exits_own apart
  rintro source target (free | free)
  · rw [join, joint.reaches_into_left (first.free_all _ _ free).2]
    exact freeFirst _ _ free
  · rw [join, joint.reaches_from_right (second.free_all _ _ free).1]
    exact freeSecond _ _ free

/-- An ordered series springs from nodes of the first part that the first part springs from. -/
theorem join_springs_left (ordered : (first.join second exits exits_own).Ordered)
    {sources : Set α} (inside : sources ⊆ first.own) :
    (first.join second exits exits_own).Springs sources ↔
      first.Springs sources ∧ (second.all.Nonempty → first.own.Nonempty) := by
  have joint := joint_join exits_own apart
  constructor
  · refine fun springs => ⟨fun node member => ?_, fun ⟨later, follows⟩ => ?_⟩
    · obtain ⟨source, start, path⟩ := springs node (Or.inl member)
      exact ⟨source, start, (joint.reaches_into_left member).mp path⟩
    · obtain ⟨source, start, -⟩ := springs later (Or.inr follows)
      exact ⟨source, inside start⟩
  · rintro ⟨springs, owns⟩ node (member | follows)
    · obtain ⟨source, start, path⟩ := springs node member
      exact ⟨source, start, (joint.reaches_into_left member).mpr path⟩
    · obtain ⟨owned, own⟩ := owns ⟨node, follows⟩
      obtain ⟨source, start, -⟩ := springs owned (first.own_all own)
      exact ⟨source, start, ordered _ _ (Or.inr (Or.inr ⟨inside start, follows⟩))⟩

/-- A series springs from nodes of the second part only where the first part is empty. -/
theorem join_springs_right {sources : Set α} (inside : sources ⊆ second.all) :
    (first.join second exits exits_own).Springs sources ↔
      second.Springs sources ∧ ¬ first.all.Nonempty := by
  have joint := joint_join exits_own apart
  constructor
  · refine fun springs => ⟨fun node member => ?_, fun ⟨node, member⟩ => ?_⟩
    · obtain ⟨source, start, path⟩ := springs node (Or.inr member)
      exact ⟨source, start, (joint.reaches_from_right (inside start)).mp path⟩
    · obtain ⟨source, start, path⟩ := springs node (Or.inl member)
      exact joint.not_reaches_back (inside start) member path
  · rintro ⟨springs, none⟩ node (member | member)
    · exact absurd ⟨node, member⟩ none
    · obtain ⟨source, start, path⟩ := springs node member
      exact ⟨source, start, (joint.reaches_from_right (inside start)).mpr path⟩

/-- An ordered series drains into nodes of the second part that the second part drains into. -/
theorem join_drains_right (ordered : (first.join second exits exits_own).Ordered)
    {targets : Set α} (inside : targets ⊆ second.own) :
    (first.join second exits exits_own).Drains targets ↔
      second.Drains targets ∧ (first.own.Nonempty → second.own.Nonempty) := by
  have joint := joint_join exits_own apart
  constructor
  · refine fun drains => ⟨fun node member => ?_, fun ⟨node, member⟩ => ?_⟩
    · obtain ⟨target, stop, path⟩ := drains node (Or.inr member)
      exact ⟨target, stop, (joint.reaches_from_right (second.own_all member)).mp path⟩
    · obtain ⟨target, stop, -⟩ := drains node (Or.inl member)
      exact ⟨target, inside stop⟩
  · rintro ⟨drains, owns⟩ node (own | member)
    · obtain ⟨owned, also⟩ := owns ⟨node, own⟩
      obtain ⟨target, stop, -⟩ := drains owned also
      exact ⟨target, stop, ordered _ _ (Or.inr (Or.inr ⟨own, second.own_all (inside stop)⟩))⟩
    · obtain ⟨target, stop, path⟩ := drains node member
      exact ⟨target, stop, (joint.reaches_from_right (second.own_all member)).mpr path⟩

/-- A series drains into nodes of the first part only where the second has none of its own. -/
theorem join_drains_left {targets : Set α} (inside : targets ⊆ first.own) :
    (first.join second exits exits_own).Drains targets ↔
      first.Drains targets ∧ ¬ second.own.Nonempty := by
  have joint := joint_join exits_own apart
  constructor
  · refine fun drains => ⟨fun node member => ?_, fun ⟨node, member⟩ => ?_⟩
    · obtain ⟨target, stop, path⟩ := drains node (Or.inl member)
      exact ⟨target, stop, (joint.reaches_into_left (first.own_all (inside stop))).mp path⟩
    · obtain ⟨target, stop, path⟩ := drains node (Or.inr member)
      exact joint.not_reaches_back (second.own_all member) (first.own_all (inside stop)) path
  · rintro ⟨drains, none⟩ node (member | member)
    · obtain ⟨target, stop, path⟩ := drains node member
      exact ⟨target, stop, (joint.reaches_into_left (first.own_all (inside stop))).mpr path⟩
    · exact absurd ⟨node, member⟩ none

/-- What hangs on a network changes nothing about where the network itself drains. -/
theorem attach_drains {targets : Set α} (inside : targets ⊆ first.own) :
    (first.attach second exits exits_own).Drains targets ↔ first.Drains targets := by
  have joint := joint_join exits_own apart
  refine forall₂_congr fun node own => exists_congr fun target => and_congr_right fun stop => ?_
  exact joint.reaches_into_left (first.own_all (inside stop))

end Join

section Beside

variable {first second : Network α}

theorem joint_beside (apart : Disjoint first.all second.all) :
    Joint first.edge second.edge ∅ ∅ first.all second.all where
  inLeft := first.edge_all
  inRight := second.edge_all
  apart := apart
  exitsLeft _ member := member.elim
  entriesRight _ member := member.elim

variable (apart : Disjoint first.all second.all)
include apart

theorem beside_ordered : (first.beside second).Ordered ↔ first.Ordered ∧ second.Ordered := by
  have joint := joint_beside apart
  constructor
  · refine fun ordered => ⟨fun source target earlier => ?_, fun source target earlier => ?_⟩
    · exact (joint.reaches_into_left (first.before_all _ _ earlier).2).mp
        (ordered _ _ (Or.inl earlier))
    · exact (joint.reaches_from_right (second.before_all _ _ earlier).1).mp
        (ordered _ _ (Or.inr earlier))
  · rintro ⟨orderedFirst, orderedSecond⟩ source target (earlier | earlier)
    · exact (joint.reaches_into_left (first.before_all _ _ earlier).2).mpr
        (orderedFirst _ _ earlier)
    · exact (joint.reaches_from_right (second.before_all _ _ earlier).1).mpr
        (orderedSecond _ _ earlier)

theorem beside_independent (freeFirst : first.Independent) (freeSecond : second.Independent) :
    (first.beside second).Independent := by
  have joint := joint_beside apart
  rintro source target (free | free | ⟨left, right⟩ | ⟨right, left⟩) path
  · exact freeFirst _ _ free ((joint.reaches_into_left (first.free_all _ _ free).2).mp path)
  · exact freeSecond _ _ free ((joint.reaches_from_right (second.free_all _ _ free).1).mp path)
  · obtain ⟨⟨exit, none, -⟩, -⟩ := (joint.reaches_across left right).mp path
    exact none.elim
  · exact joint.not_reaches_back right left path

theorem beside_springs {sources others : Set α} (inside : sources ⊆ first.all)
    (outside : others ⊆ second.all) :
    (first.beside second).Springs (sources ∪ others) ↔
      first.Springs sources ∧ second.Springs others := by
  have joint := joint_beside apart
  constructor
  · refine fun springs => ⟨fun node member => ?_, fun node member => ?_⟩
    · obtain ⟨source, start | start, path⟩ := springs node (Or.inl member)
      · exact ⟨source, start, (joint.reaches_into_left member).mp path⟩
      · exact (joint.not_reaches_back (outside start) member path).elim
    · obtain ⟨source, start | start, path⟩ := springs node (Or.inr member)
      · obtain ⟨⟨exit, none, -⟩, -⟩ := (joint.reaches_across (inside start) member).mp path
        exact none.elim
      · exact ⟨source, start, (joint.reaches_from_right (outside start)).mp path⟩
  · rintro ⟨springsFirst, springsSecond⟩ node (member | member)
    · obtain ⟨source, start, path⟩ := springsFirst node member
      exact ⟨source, Or.inl start, (joint.reaches_into_left member).mpr path⟩
    · obtain ⟨source, start, path⟩ := springsSecond node member
      exact ⟨source, Or.inr start, (joint.reaches_from_right (outside start)).mpr path⟩

theorem beside_drains {targets others : Set α} (inside : targets ⊆ first.all)
    (outside : others ⊆ second.all) :
    (first.beside second).Drains (targets ∪ others) ↔
      first.Drains targets ∧ second.Drains others := by
  have joint := joint_beside apart
  constructor
  · refine fun drains => ⟨fun node member => ?_, fun node member => ?_⟩
    · obtain ⟨target, stop | stop, path⟩ := drains node (Or.inl member)
      · exact ⟨target, stop, (joint.reaches_into_left (inside stop)).mp path⟩
      · obtain ⟨⟨exit, none, -⟩, -⟩ :=
          (joint.reaches_across (first.own_all member) (outside stop)).mp path
        exact none.elim
    · obtain ⟨target, stop | stop, path⟩ := drains node (Or.inr member)
      · exact (joint.not_reaches_back (second.own_all member) (inside stop) path).elim
      · exact ⟨target, stop, (joint.reaches_from_right (second.own_all member)).mp path⟩
  · rintro ⟨drainsFirst, drainsSecond⟩ node (member | member)
    · obtain ⟨target, stop, path⟩ := drainsFirst node member
      exact ⟨target, Or.inl stop, (joint.reaches_into_left (inside stop)).mpr path⟩
    · obtain ⟨target, stop, path⟩ := drainsSecond node member
      exact ⟨target, Or.inr stop, (joint.reaches_from_right (second.own_all member)).mpr path⟩

end Beside

/-- Networks side by side. -/
def alongside (networks : List (Network α)) : Network α := networks.foldr beside empty

/-- Networks one after the other. -/
def path (first : Network α) : List (Network α) → Network α
  | [] => first
  | next :: rest => first.andThen (path next rest)

theorem path_heads (first : Network α) (rest : List (Network α)) :
    (path first rest).heads = first.heads := by
  cases rest <;> rfl

theorem mem_alongside_all {networks : List (Network α)} {node : α} :
    node ∈ (alongside networks).all ↔ ∃ network ∈ networks, node ∈ network.all := by
  induction networks with
  | nil => simp [alongside, empty]
  | cons network networks induction =>
      rw [alongside, List.foldr_cons, ← alongside]
      simp only [beside, Set.mem_union, induction, List.mem_cons, exists_eq_or_imp]

theorem mem_path_all {first : Network α} {rest : List (Network α)} {node : α} :
    node ∈ (path first rest).all ↔ ∃ network ∈ first :: rest, node ∈ network.all := by
  induction rest generalizing first with
  | nil => simp [path]
  | cons next rest induction =>
      rw [path, andThen]
      simp only [join, Set.mem_union, induction, List.mem_cons, exists_eq_or_imp]

theorem mem_alongside_heads {networks : List (Network α)} {node : α} :
    node ∈ (alongside networks).heads ↔ ∃ network ∈ networks, node ∈ network.heads := by
  induction networks with
  | nil => simp [alongside, empty]
  | cons network networks induction =>
      rw [alongside, List.foldr_cons, ← alongside]
      simp only [beside, Set.mem_union, induction, List.mem_cons, exists_eq_or_imp]

theorem mem_alongside_tails {networks : List (Network α)} {node : α} :
    node ∈ (alongside networks).tails ↔ ∃ network ∈ networks, node ∈ network.tails := by
  induction networks with
  | nil => simp [alongside, empty]
  | cons network networks induction =>
      rw [alongside, List.foldr_cons, ← alongside]
      simp only [beside, Set.mem_union, induction, List.mem_cons, exists_eq_or_imp]

theorem alongside_edge {networks : List (Network α)} {source target : α} :
    (alongside networks).edge source target ↔ ∃ network ∈ networks, network.edge source target := by
  induction networks with
  | nil => simp [alongside, empty]
  | cons network networks induction =>
      rw [alongside, List.foldr_cons, ← alongside]
      simp only [beside, Joined, induction, Set.mem_empty_iff_false, false_and, or_false,
        List.mem_cons, exists_eq_or_imp]

theorem mem_alongside_own {networks : List (Network α)} {node : α} :
    node ∈ (alongside networks).own ↔ ∃ network ∈ networks, node ∈ network.own := by
  induction networks with
  | nil => simp [alongside, empty]
  | cons network networks induction =>
      rw [alongside, List.foldr_cons, ← alongside]
      simp only [beside, Set.mem_union, induction, List.mem_cons, exists_eq_or_imp]

theorem mem_path_own {first : Network α} {rest : List (Network α)} {node : α} :
    node ∈ (path first rest).own ↔ ∃ network ∈ first :: rest, node ∈ network.own := by
  induction rest generalizing first with
  | nil => simp [path]
  | cons next rest induction =>
      rw [path, andThen]
      simp only [join, Set.mem_union, induction, List.mem_cons, exists_eq_or_imp]

theorem alongside_before {networks : List (Network α)} {source target : α} :
    (alongside networks).before source target ↔
      ∃ network ∈ networks, network.before source target := by
  induction networks with
  | nil => simp [alongside, empty]
  | cons network networks induction =>
      rw [alongside, List.foldr_cons, ← alongside]
      simp only [beside, induction, List.mem_cons, exists_eq_or_imp]

theorem alongside_free {networks : List (Network α)} {source target : α}
    (free : ∃ network ∈ networks, network.free source target) :
    (alongside networks).free source target := by
  induction networks with
  | nil =>
      obtain ⟨network, member, -⟩ := free
      exact (List.not_mem_nil member).elim
  | cons first networks induction =>
      obtain ⟨network, member, free⟩ := free
      obtain rfl | member := List.mem_cons.mp member
      · exact Or.inl free
      · exact Or.inr (Or.inl (induction ⟨network, member, free⟩))

theorem path_free {first : Network α} {rest : List (Network α)} {source target : α}
    (free : ∃ network ∈ first :: rest, network.free source target) :
    (path first rest).free source target := by
  induction rest generalizing first with
  | nil =>
      obtain ⟨network, member, free⟩ := free
      obtain rfl := List.mem_singleton.mp member
      exact free
  | cons next rest induction =>
      obtain ⟨network, member, free⟩ := free
      obtain rfl | member := List.mem_cons.mp member
      · exact Or.inl free
      · exact Or.inr (induction ⟨network, member, free⟩)

theorem alongside_apart {first : Network α} {rest : List (Network α)}
    (separate : (first :: rest).Pairwise fun left right => Disjoint left.all right.all) :
    Disjoint first.all (alongside rest).all := by
  refine Set.disjoint_left.mpr fun node left right => ?_
  obtain ⟨network, member, inside⟩ := mem_alongside_all.mp right
  exact Set.disjoint_left.mp ((List.pairwise_cons.mp separate).1 network member) left inside

theorem path_apart {first next : Network α} {rest : List (Network α)}
    (separate : (first :: next :: rest).Pairwise fun left right => Disjoint left.all right.all) :
    Disjoint first.all (path next rest).all := by
  refine Set.disjoint_left.mpr fun node left right => ?_
  obtain ⟨network, member, inside⟩ := mem_path_all.mp right
  exact Set.disjoint_left.mp ((List.pairwise_cons.mp separate).1 network member) left inside

theorem alongside_independent {networks : List (Network α)}
    (separate : networks.Pairwise fun left right => Disjoint left.all right.all)
    (independent : ∀ network ∈ networks, network.Independent) :
    (alongside networks).Independent := by
  induction networks with
  | nil => exact fun _ _ => False.elim
  | cons network networks induction =>
      have apart := alongside_apart separate
      rw [alongside, List.foldr_cons, ← alongside]
      exact beside_independent apart (independent network List.mem_cons_self)
        (induction (List.pairwise_cons.mp separate).2 fun other member =>
          independent other (List.mem_cons_of_mem _ member))

theorem path_independent {first : Network α} {rest : List (Network α)}
    (separate : (first :: rest).Pairwise fun left right => Disjoint left.all right.all)
    (independent : ∀ network ∈ first :: rest, network.Independent) :
    (path first rest).Independent := by
  induction rest generalizing first with
  | nil => exact independent first List.mem_cons_self
  | cons next rest induction =>
      exact join_independent first.tails_own (path_apart separate)
        (independent first List.mem_cons_self)
        (induction (List.pairwise_cons.mp separate).2 fun other member =>
          independent other (List.mem_cons_of_mem _ member))

theorem alongside_acyclic {networks : List (Network α)}
    (separate : networks.Pairwise fun left right => Disjoint left.all right.all)
    (acyclic : ∀ network ∈ networks, ∀ node, ¬ TransGen network.edge node node) (node : α) :
    ¬ TransGen (alongside networks).edge node node := by
  induction networks generalizing node with
  | nil =>
      intro cycle
      obtain ⟨next, -, edge⟩ := TransGen.tail'_iff.mp cycle
      exact edge.elim
  | cons network networks induction =>
      rw [alongside, List.foldr_cons, ← alongside]
      exact (joint_beside (alongside_apart separate)).acyclic
        (acyclic network List.mem_cons_self)
        (induction (List.pairwise_cons.mp separate).2 fun other member =>
          acyclic other (List.mem_cons_of_mem _ member)) node

theorem path_acyclic {first : Network α} {rest : List (Network α)}
    (separate : (first :: rest).Pairwise fun left right => Disjoint left.all right.all)
    (acyclic : ∀ network ∈ first :: rest, ∀ node, ¬ TransGen network.edge node node) (node : α) :
    ¬ TransGen (path first rest).edge node node := by
  induction rest generalizing first node with
  | nil => exact acyclic first List.mem_cons_self node
  | cons next rest induction =>
      exact (joint_join first.tails_own (path_apart separate)).acyclic
        (acyclic first List.mem_cons_self)
        (induction (List.pairwise_cons.mp separate).2 fun other member =>
          acyclic other (List.mem_cons_of_mem _ member)) node

/-- No node is meant to come before itself. -/
def Strict (network : Network α) : Prop := ∀ node, ¬ network.before node node

theorem join_strict {first second : Network α} {exits : Set α} (exits_own : exits ⊆ first.own)
    (apart : Disjoint first.all second.all) (strictFirst : first.Strict)
    (strictSecond : second.Strict) : (first.join second exits exits_own).Strict := by
  rintro node (earlier | earlier | ⟨own, later⟩)
  · exact strictFirst node earlier
  · exact strictSecond node earlier
  · exact Set.disjoint_left.mp apart (first.own_all own) later

theorem path_strict {first : Network α} {rest : List (Network α)}
    (separate : (first :: rest).Pairwise fun left right => Disjoint left.all right.all)
    (strict : ∀ network ∈ first :: rest, network.Strict) : (path first rest).Strict := by
  induction rest generalizing first with
  | nil => exact strict first List.mem_cons_self
  | cons next rest induction =>
      exact join_strict first.tails_own (path_apart separate) (strict first List.mem_cons_self)
        (induction (List.pairwise_cons.mp separate).2 fun other member =>
          strict other (List.mem_cons_of_mem _ member))

theorem alongside_strict {networks : List (Network α)}
    (strict : ∀ network ∈ networks, network.Strict) : (alongside networks).Strict := by
  induction networks with
  | nil => exact fun _ => False.elim
  | cons network networks induction =>
      rintro node (earlier | earlier)
      · exact strict network List.mem_cons_self node earlier
      · exact induction (fun other member => strict other (List.mem_cons_of_mem _ member)) node
          earlier

/-- What holds of a network that is put together from networks without common nodes. -/
structure Sound (network : Network α) : Prop where
  independent : network.Independent
  acyclic : ∀ node, ¬ TransGen network.edge node node
  strict : network.Strict

theorem sound_attach {first second : Network α} {exits : Set α} (exits_own : exits ⊆ first.own)
    (apart : Disjoint first.all second.all) (soundFirst : first.Sound)
    (soundSecond : second.Sound) : (first.attach second exits exits_own).Sound where
  independent := join_independent exits_own apart soundFirst.independent soundSecond.independent
  acyclic := (joint_join exits_own apart).acyclic soundFirst.acyclic soundSecond.acyclic
  strict := join_strict exits_own apart soundFirst.strict soundSecond.strict

theorem sound_path {first : Network α} {rest : List (Network α)}
    (separate : (first :: rest).Pairwise fun left right => Disjoint left.all right.all)
    (sound : ∀ network ∈ first :: rest, network.Sound) : (path first rest).Sound where
  independent := path_independent separate fun network member => (sound network member).independent
  acyclic := path_acyclic separate fun network member => (sound network member).acyclic
  strict := path_strict separate fun network member => (sound network member).strict

theorem sound_alongside {networks : List (Network α)}
    (separate : networks.Pairwise fun left right => Disjoint left.all right.all)
    (sound : ∀ network ∈ networks, network.Sound) : (alongside networks).Sound where
  independent :=
    alongside_independent separate fun network member => (sound network member).independent
  acyclic := alongside_acyclic separate fun network member => (sound network member).acyclic
  strict := alongside_strict fun network member => (sound network member).strict

end Network
end OdooConnector
