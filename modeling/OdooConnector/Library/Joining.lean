import Mathlib.Data.List.Basic
import Mathlib.Data.String.Basic

/-!
# Joining the non-empty texts of a list

Texts are joined with a separator after the empty ones have been left out. Joining two joined
lists is joining their concatenation, so a text that is extended piece by piece is the join of its
pieces. Two pairs of texts have one join only if they are equal or the separator occurs in them at
the place where the other pair is joined.
-/

namespace OdooConnector

/-- Join the non-empty texts. -/
def joinNonempty (separator : String) (texts : List String) : String :=
  separator.intercalate (texts.filter fun text => text ≠ "")

theorem intercalate_eq_empty_iff {separator : String} {texts : List String}
    (nonempty : ∀ text ∈ texts, text ≠ "") :
    separator.intercalate texts = "" ↔ texts = [] := by
  cases texts with
  | nil => simp
  | cons text texts =>
      have first : text ≠ "" := nonempty text List.mem_cons_self
      cases texts with
      | nil => simp [first]
      | cons next texts =>
          rw [String.intercalate_cons_cons]
          simp [String.append_eq_empty_iff, first]

theorem mem_filter_nonempty {texts : List String} :
    ∀ text ∈ texts.filter fun text => text ≠ "", text ≠ "" := by
  intro text member
  simpa using List.of_mem_filter member

theorem joinNonempty_eq_empty_iff (separator : String) (texts : List String) :
    joinNonempty separator texts = "" ↔ ∀ text ∈ texts, text = "" := by
  rw [joinNonempty, intercalate_eq_empty_iff mem_filter_nonempty]
  simp

/-- The join of two joins is the join of the concatenation. -/
theorem joinNonempty_pair (separator : String) (left right : List String) :
    joinNonempty separator [joinNonempty separator left, joinNonempty separator right] =
      joinNonempty separator (left ++ right) := by
  by_cases leftEmpty : joinNonempty separator left = ""
  · have leftNil : (left.filter fun text => text ≠ "") = [] := by
      simpa using (joinNonempty_eq_empty_iff separator left).mp leftEmpty
    by_cases rightEmpty : joinNonempty separator right = ""
    · have rightNil : (right.filter fun text => text ≠ "") = [] := by
        simpa using (joinNonempty_eq_empty_iff separator right).mp rightEmpty
      rw [leftEmpty, rightEmpty]
      simp only [joinNonempty, List.filter_append, leftNil, rightNil, List.append_nil]
      rfl
    · rw [joinNonempty, leftEmpty]
      simp only [ne_eq, not_true_eq_false, decide_false, Bool.false_eq_true, not_false_eq_true,
        List.filter_cons_of_neg, rightEmpty, decide_true, List.filter_cons_of_pos, List.filter_nil,
        String.intercalate_singleton]
      rw [joinNonempty, joinNonempty, List.filter_append, leftNil, List.nil_append]
  · have leftCons : (left.filter fun text => text ≠ "") ≠ [] := fun nil =>
      leftEmpty ((joinNonempty_eq_empty_iff separator left).mpr (by simpa using nil))
    by_cases rightEmpty : joinNonempty separator right = ""
    · have rightNil : (right.filter fun text => text ≠ "") = [] := by
        simpa using (joinNonempty_eq_empty_iff separator right).mp rightEmpty
      rw [joinNonempty, rightEmpty]
      simp only [ne_eq, leftEmpty, not_false_eq_true, decide_true, List.filter_cons_of_pos,
        not_true_eq_false, decide_false, Bool.false_eq_true, List.filter_cons_of_neg,
        List.filter_nil, String.intercalate_singleton]
      rw [joinNonempty, joinNonempty, List.filter_append, rightNil, List.append_nil]
    · have rightCons : (right.filter fun text => text ≠ "") ≠ [] := fun nil =>
        rightEmpty ((joinNonempty_eq_empty_iff separator right).mpr (by simpa using nil))
      rw [joinNonempty]
      simp only [ne_eq, leftEmpty, rightEmpty, not_false_eq_true, decide_true,
        List.filter_cons_of_pos, List.filter_nil]
      rw [String.intercalate_cons_cons, String.intercalate_singleton, joinNonempty, joinNonempty,
        joinNonempty, List.filter_append, String.intercalate_append_of_ne_nil leftCons rightCons]

@[simp]
theorem joinNonempty_singleton (separator text : String) :
    joinNonempty separator [text] = text := by
  by_cases empty : text = ""
  · rw [empty, joinNonempty_eq_empty_iff]
    simp
  · simp [joinNonempty, empty]

/-- Extending a join by one text. -/
theorem joinNonempty_extend (separator : String) (texts : List String) (text : String) :
    joinNonempty separator [joinNonempty separator texts, text] =
      joinNonempty separator (texts ++ [text]) := by
  rw [← joinNonempty_pair, joinNonempty_singleton]

/-! ## Pairs with one join -/

/-- A separator within one text of the first pair is where the second pair is joined, and the other
way round. -/
def Shifted (separator : String) (first second : String × String) : Prop :=
  ∃ middle, (second.1 = first.1 ++ separator ++ middle ∧
      first.2 = middle ++ separator ++ second.2) ∨
    (first.1 = second.1 ++ separator ++ middle ∧ second.2 = middle ++ separator ++ first.2)

theorem append_cons_eq_iff {α : Type*} {separator : α} {left right left' right' : List α} :
    left ++ separator :: right = left' ++ separator :: right' ↔
      (left = left' ∧ right = right') ∨
        ∃ middle, (left' = left ++ separator :: middle ∧ right = middle ++ separator :: right') ∨
          (left = left' ++ separator :: middle ∧ right' = middle ++ separator :: right) := by
  constructor
  · intro same
    obtain ⟨between, leftSame, rightSame⟩ | ⟨between, leftSame, rightSame⟩ :=
      List.append_eq_append_iff.mp same
    · cases between with
      | nil => exact Or.inl ⟨by simpa using leftSame.symm, (List.cons.inj rightSame).2⟩
      | cons first middle =>
          obtain ⟨rfl, rest⟩ := List.cons.inj rightSame
          exact Or.inr ⟨middle, Or.inl ⟨leftSame, rest⟩⟩
    · cases between with
      | nil => exact Or.inl ⟨by simpa using leftSame, (List.cons.inj rightSame).2.symm⟩
      | cons first middle =>
          obtain ⟨rfl, rest⟩ := List.cons.inj rightSame
          exact Or.inr ⟨middle, Or.inr ⟨leftSame, rest⟩⟩
  · rintro (⟨rfl, rfl⟩ | ⟨middle, ⟨rfl, rfl⟩ | ⟨rfl, rfl⟩⟩)
    · rfl
    · simp
    · simp

/-- Two places of a list are the same, or one comes before the other. -/
theorem append_cons_cases {α : Type*} {first second : α} {left right left' right' : List α}
    (same : left ++ first :: right = left' ++ second :: right') :
    (left = left' ∧ first = second ∧ right = right') ∨
      (∃ middle, left' = left ++ first :: middle) ∨ ∃ middle, left = left' ++ second :: middle := by
  obtain ⟨between, leftSame, rightSame⟩ | ⟨between, leftSame, rightSame⟩ :=
    List.append_eq_append_iff.mp same
  · cases between with
    | nil =>
        obtain ⟨rfl, rfl⟩ := List.cons.inj rightSame
        exact .inl ⟨by simpa using leftSame.symm, rfl, rfl⟩
    | cons head middle =>
        obtain ⟨rfl, _⟩ := List.cons.inj rightSame
        exact .inr (.inl ⟨middle, leftSame⟩)
  · cases between with
    | nil =>
        obtain ⟨rfl, rfl⟩ := List.cons.inj rightSame
        exact .inl ⟨by simpa using leftSame, rfl, rfl⟩
    | cons head middle =>
        obtain ⟨rfl, _⟩ := List.cons.inj rightSame
        exact .inr (.inr ⟨middle, leftSame⟩)

/-- Pairs with one join are equal or shifted. -/
theorem joined_eq_iff (separator : Char) (first second : String × String) :
    first.1 ++ String.singleton separator ++ first.2 =
        second.1 ++ String.singleton separator ++ second.2 ↔
      first = second ∨ Shifted (String.singleton separator) first second := by
  have lists := @append_cons_eq_iff Char separator first.1.toList first.2.toList second.1.toList
    second.2.toList
  rw [Shifted, Prod.ext_iff]
  simp only [← String.toList_inj, String.toList_append, String.toList_singleton,
    List.append_assoc, List.singleton_append]
  rw [lists]
  refine or_congr_right ⟨?_, ?_⟩
  · rintro ⟨middle, shifted⟩
    refine ⟨String.ofList middle, ?_⟩
    rwa [String.toList_ofList]
  · rintro ⟨middle, shifted⟩
    exact ⟨middle.toList, shifted⟩

/-- Shifted pairs differ. -/
theorem Shifted.ne {separator : String} {first second : String × String} (nonempty : separator ≠ "")
    (shifted : Shifted separator first second) : first ≠ second := by
  have positive : 0 < separator.length := by
    rw [Nat.pos_iff_ne_zero, Ne, String.length_eq_zero_iff]
    exact nonempty
  rintro rfl
  obtain ⟨middle, ⟨same, -⟩ | ⟨same, -⟩⟩ := shifted <;>
  · have lengths := congrArg String.length same
    rw [String.length_append, String.length_append] at lengths
    omega

end OdooConnector
