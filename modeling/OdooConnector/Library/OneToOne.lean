import Mathlib.Data.List.Forall2
import Mathlib.Data.List.Nodup

/-!
# One-to-one relations between lists

Elements of two lists that are related one after another belong together one to one, if each
element of the second list is related to only one of the first. Lists of one length can be matched
place by place as soon as each element of the second list is related to some element of the first,
and no two to one.
-/

namespace OdooConnector

variable {α β : Type*}

/-- Each element of a list is related to exactly one element of the other list. -/
structure OneToOne (R : α → β → Prop) (as : List α) (bs : List β) : Prop where
  left : ∀ a ∈ as, ∃! b, b ∈ bs ∧ R a b
  right : ∀ b ∈ bs, ∃! a, a ∈ as ∧ R a b

variable {R : α → β → Prop} {as : List α} {bs : List β}

theorem exists_of_forall₂_left (related : List.Forall₂ R as bs) {a : α} (mem : a ∈ as) :
    ∃ b ∈ bs, R a b := by
  induction related with
  | nil => cases mem
  | cons own _ induction =>
      cases mem with
      | head => exact ⟨_, List.mem_cons_self, own⟩
      | tail _ mem =>
          obtain ⟨b, mem, holds⟩ := induction mem
          exact ⟨b, List.mem_cons_of_mem _ mem, holds⟩

theorem exists_of_forall₂_right (related : List.Forall₂ R as bs) {b : β} (mem : b ∈ bs) :
    ∃ a ∈ as, R a b :=
  exists_of_forall₂_left related.flip mem

/-- Lists without repetition that are related one after another are related one to one, if the
relation determines the first element. -/
theorem oneToOne_of_forall₂ (related : List.Forall₂ R as bs) (nodup : as.Nodup)
    (single : ∀ a ∈ as, ∀ other ∈ as, ∀ b ∈ bs, R a b → R other b → a = other) :
    OneToOne R as bs := by
  constructor
  · intro a mem
    induction related with
    | nil => cases mem
    | cons own rest induction =>
        rename_i first second as bs
        have apart := List.nodup_cons.1 nodup
        cases mem with
        | head =>
            refine ⟨second, ⟨List.mem_cons_self, own⟩, ?_⟩
            rintro b ⟨listed, holds⟩
            cases listed with
            | head => rfl
            | tail _ listed =>
                obtain ⟨other, among, also⟩ := exists_of_forall₂_right rest listed
                have same := single _ List.mem_cons_self _ (List.mem_cons_of_mem _ among) _
                  (List.mem_cons_of_mem _ listed) holds also
                exact absurd (same ▸ among) apart.1
        | tail _ mem =>
            obtain ⟨b, ⟨listed, holds⟩, only⟩ := induction apart.2
              (fun a mem other among b listed => single a (List.mem_cons_of_mem _ mem) other
                (List.mem_cons_of_mem _ among) b (List.mem_cons_of_mem _ listed)) mem
            refine ⟨b, ⟨List.mem_cons_of_mem _ listed, holds⟩, ?_⟩
            rintro c ⟨listed', holds'⟩
            cases listed' with
            | head =>
                have same := single _ (List.mem_cons_of_mem _ mem) _ List.mem_cons_self _
                  List.mem_cons_self holds' own
                exact absurd (same ▸ mem) apart.1
            | tail _ listed' => exact only c ⟨listed', holds'⟩
  · intro b listed
    obtain ⟨a, mem, holds⟩ := exists_of_forall₂_right related listed
    refine ⟨a, ⟨mem, holds⟩, ?_⟩
    rintro other ⟨among, also⟩
    exact single other among a mem b listed also holds

/-- Only membership in the second list matters. -/
theorem OneToOne.congr {other : List β} (same : ∀ b, b ∈ bs ↔ b ∈ other)
    (holds : OneToOne R as bs) : OneToOne R as other := by
  constructor
  · intro a mem
    simpa only [same] using holds.left a mem
  · intro b mem
    exact holds.right b ((same b).2 mem)

/-- Only the relation between elements of the lists matters. -/
theorem OneToOne.congr_rel {S : α → β → Prop} (same : ∀ a ∈ as, ∀ b ∈ bs, R a b ↔ S a b)
    (holds : OneToOne R as bs) : OneToOne S as bs := by
  constructor
  · intro a mem
    obtain ⟨b, ⟨listed, own⟩, only⟩ := holds.left a mem
    refine ⟨b, ⟨listed, (same a mem b listed).mp own⟩, ?_⟩
    rintro other ⟨among, also⟩
    exact only other ⟨among, (same a mem other among).mpr also⟩
  · intro b listed
    obtain ⟨a, ⟨mem, own⟩, only⟩ := holds.right b listed
    refine ⟨a, ⟨mem, (same a mem b listed).mp own⟩, ?_⟩
    rintro other ⟨among, also⟩
    exact only other ⟨among, (same other among b listed).mpr also⟩

/-- A map of the second list that keeps elements apart and what they are related to. -/
theorem OneToOne.map {γ : Type*} {change : β → γ} {T : α → γ → Prop} (holds : OneToOne R as bs)
    (keeps : ∀ a, ∀ b ∈ bs, T a (change b) ↔ R a b) : OneToOne T as (bs.map change) := by
  constructor
  · intro a mem
    obtain ⟨b, ⟨listed, own⟩, only⟩ := holds.left a mem
    refine ⟨change b, ⟨List.mem_map_of_mem listed, (keeps a b listed).2 own⟩, ?_⟩
    rintro _ ⟨changed, also⟩
    obtain ⟨c, listed', rfl⟩ := List.mem_map.1 changed
    rw [only c ⟨listed', (keeps a c listed').1 also⟩]
  · intro _ changed
    obtain ⟨b, listed, rfl⟩ := List.mem_map.1 changed
    obtain ⟨a, ⟨mem, own⟩, only⟩ := holds.right b listed
    refine ⟨a, ⟨mem, (keeps a b listed).2 own⟩, ?_⟩
    rintro other ⟨among, also⟩
    exact only other ⟨among, (keeps other b listed).1 also⟩

/-- Two relations between the elements of two lists, one after another. -/
theorem forall₂_and {S : α → β → Prop} : List.Forall₂ (fun a b => R a b ∧ S a b) as bs ↔
    List.Forall₂ R as bs ∧ List.Forall₂ S as bs := by
  constructor
  · exact fun both => ⟨both.imp fun _ _ => And.left, both.imp fun _ _ => And.right⟩
  · rintro ⟨one, two⟩
    induction one with
    | nil => exact .nil
    | cons own _ induction =>
        cases two with
        | cons other rest => exact .cons ⟨own, other⟩ (induction rest)

/-- In some order the elements of the first list are related to those of the second one after
another. -/
def Matched (R : α → β → Prop) (as : List α) (bs : List β) : Prop :=
  ∃ arranged, as.Perm arranged ∧ List.Forall₂ R arranged bs

/-- Counting: what each element of the second list is related to is all of the first list. -/
theorem matched_of_length (lengths : as.length = bs.length) (covered : ∀ b ∈ bs, ∃ a ∈ as, R a b)
    (apart : bs.Pairwise fun b other => ∀ a, R a b → ¬ R a other) : Matched R as bs := by
  induction bs generalizing as with
  | nil =>
      obtain rfl := List.length_eq_zero_iff.mp lengths
      exact ⟨[], .nil, .nil⟩
  | cons b bs induction =>
      obtain ⟨a, member, own⟩ := covered b List.mem_cons_self
      obtain ⟨before, after, rfl⟩ := List.append_of_mem member
      rw [List.pairwise_cons] at apart
      have others : ∀ c ∈ bs, ∃ other ∈ before ++ after, R other c := by
        intro c listed
        obtain ⟨other, among, holds⟩ := covered c (List.mem_cons_of_mem b listed)
        refine ⟨other, ?_, holds⟩
        have ne : other ≠ a := by
          rintro rfl
          exact apart.1 c listed other own holds
        simpa [ne] using among
      have rest : (before ++ after).length = bs.length := by
        simp only [List.length_append, List.length_cons] at lengths ⊢
        omega
      obtain ⟨arranged, perm, related⟩ := induction rest others apart.2
      exact ⟨a :: arranged, List.perm_middle.trans (perm.cons a), .cons own related⟩

theorem Matched.covered (matched : Matched R as bs) : ∀ b ∈ bs, ∃ a ∈ as, R a b := by
  intro b listed
  obtain ⟨arranged, perm, related⟩ := matched
  obtain ⟨a, member, holds⟩ := exists_of_forall₂_right related listed
  exact ⟨a, perm.mem_iff.mpr member, holds⟩

/-- Elements that are matched belong together one to one if the relation determines the first. -/
theorem Matched.oneToOne (matched : Matched R as bs) (nodup : as.Nodup)
    (single : ∀ a other b, R a b → R other b → a = other) : OneToOne R as bs := by
  obtain ⟨arranged, perm, related⟩ := matched
  have holds := oneToOne_of_forall₂ related (perm.nodup_iff.mp nodup)
    fun a _ other _ b _ => single a other b
  constructor
  · exact fun a mem => holds.left a (perm.mem_iff.mp mem)
  · intro b listed
    simpa only [perm.mem_iff] using holds.right b listed

end OdooConnector
