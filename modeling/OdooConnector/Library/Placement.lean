import Mathlib.Data.List.Basic
import Mathlib.Data.List.Induction

/-!
# Placements on a path

A job goes down a path of places, each of which is the front of a list of names: it is queued in the
first, runs there and is queued in the next, until it runs in all of them. Or it has failed, in the
first place only.
-/

namespace OdooConnector

variable {α : Type*} {path place other : List α} {name : α}

/-- Where on its path a job is queued, runs and has failed. The parent of a place is its tail. -/
structure Placed (path : List α) (queued running failed : List α → Prop) : Prop where
  queued_running : ∀ place, queued place → ¬ running place
  queued_failed : ∀ place, queued place → ¬ failed place
  running_failed : ∀ place, running place → ¬ failed place
  onPath : ∀ place, queued place ∨ running place → place <:+ path
  failed_first : ∀ place, failed place → place = path
  below : ∀ name place, queued place ∨ running place → name :: place <:+ path →
    running (name :: place)
  above : ∀ name place, running (name :: place) → queued place ∨ running place

theorem cons_ne_tail : name :: place ≠ place := by
  intro same
  have lengths := congrArg List.length same
  simp at lengths

theorem ne_cons_of_suffix (above : other <:+ place) : other ≠ name :: place := by
  intro same
  have bound := above.length_le
  rw [same, List.length_cons] at bound
  omega

/-- Places of one length on a path are the same. -/
theorem suffix_unique (first : place <:+ path) (second : other <:+ path)
    (lengths : place.length = other.length) : place = other :=
  (List.suffix_of_suffix_length_le first second (Nat.le_of_eq lengths)).eq_of_length lengths

theorem suffix_of_cons (onPath : name :: place <:+ path) : place <:+ path :=
  (List.suffix_cons name place).trans onPath

namespace Placed

variable {queued running failed : List α → Prop}

theorem congr {queued' running' failed' : List α → Prop}
    (placed : Placed path queued running failed) (queue : ∀ place, queued' place ↔ queued place)
    (runs : ∀ place, running' place ↔ running place)
    (fails : ∀ place, failed' place ↔ failed place) : Placed path queued' running' failed' := by
  obtain rfl : queued' = queued := funext fun place => propext (queue place)
  obtain rfl : running' = running := funext fun place => propext (runs place)
  obtain rfl : failed' = failed := funext fun place => propext (fails place)
  exact placed

theorem nowhere : Placed path (fun _ => False) (fun _ => False) fun _ => False := by
  constructor <;> simp

theorem queuedFirst : Placed path (fun place => place = path) (fun _ => False) fun _ => False := by
  constructor
  case below =>
    intro name place here onPath
    cases here with
    | inl here =>
        subst here
        have bound := onPath.length_le
        rw [List.length_cons] at bound
        omega
    | inr here => cases here
  all_goals simp

theorem failedFirst : Placed path (fun _ => False) (fun _ => False) fun place => place = path := by
  constructor <;> simp

theorem runningAll : Placed path (fun _ => False) (fun place => place <:+ path) fun _ => False := by
  constructor
  case above => exact fun name place here => Or.inr (suffix_of_cons here)
  case below => exact fun name place _ onPath => onPath
  all_goals simp

/-- A job that is queued or runs in a place runs in all places before it. -/
theorem running_of_suffix (placed : Placed path queued running failed)
    (here : queued place ∨ running place) (onPath : other <:+ path) (before : place <:+ other)
    (inner : place ≠ other) : running other := by
  obtain ⟨front, rfl⟩ := before
  induction front with
  | nil => exact absurd rfl inner
  | cons name front induction =>
      rw [List.cons_append] at onPath ⊢
      refine placed.below name (front ++ place) ?_ onPath
      by_cases same : place = front ++ place
      · rw [← same]
        exact here
      · exact Or.inr (induction (suffix_of_cons onPath) same)

/-- A job is queued in one place. -/
theorem queued_unique (placed : Placed path queued running failed) (first : queued place)
    (second : queued other) : place = other := by
  have onPath := placed.onPath place (Or.inl first)
  have onPath' := placed.onPath other (Or.inl second)
  by_contra different
  cases Nat.le_total place.length other.length with
  | inl shorter =>
      have before := List.suffix_of_suffix_length_le onPath onPath' shorter
      exact placed.queued_running other second
        (placed.running_of_suffix (Or.inl first) onPath' before different)
  | inr longer =>
      have before := List.suffix_of_suffix_length_le onPath' onPath longer
      exact placed.queued_running place first
        (placed.running_of_suffix (Or.inl second) onPath before (Ne.symm different))

/-- A job that does not run in the first place of its path is nowhere else on it. -/
theorem eq_path (placed : Placed path queued running failed) (idle : ¬ running path)
    (here : queued place ∨ running place) : place = path := by
  by_contra inner
  exact idle (placed.running_of_suffix here List.suffix_rfl (placed.onPath place here) inner)

/-- A job that runs in the last place runs on its whole path. -/
theorem running_of_root (placed : Placed path queued running failed) (root : running [])
    (onPath : place <:+ path) : running place := by
  by_cases same : place = []
  · exact same ▸ root
  · exact placed.running_of_suffix (Or.inr root) onPath (List.nil_suffix) (Ne.symm same)

/-- A queued job runs where it was queued, and is queued in the next place. -/
theorem advance (placed : Placed path queued running failed) (here : queued place) :
    Placed path (fun other => queued other ∧ other ≠ place ∨ ∃ name, place = name :: other)
      (fun other => other = place ∨ running other) failed := by
  have onPath := placed.onPath place (Or.inl here)
  constructor
  case queued_running =>
    intro other waits runs
    cases waits with
    | inl waits =>
        cases runs with
        | inl same => exact waits.2 same
        | inr runs => exact placed.queued_running other waits.1 runs
    | inr next =>
        obtain ⟨name, rfl⟩ := next
        cases runs with
        | inl same => exact cons_ne_tail same.symm
        | inr runs =>
            exact placed.queued_running _ here (placed.below name other (Or.inr runs) onPath)
  case queued_failed =>
    intro other waits failed
    cases waits with
    | inl waits => exact placed.queued_failed other waits.1 failed
    | inr next =>
        obtain ⟨name, rfl⟩ := next
        have bound := onPath.length_le
        rw [placed.failed_first other failed, List.length_cons] at bound
        omega
  case running_failed =>
    intro other runs failed
    cases runs with
    | inl same => exact placed.queued_failed place here (same ▸ failed)
    | inr runs => exact placed.running_failed other runs failed
  case onPath =>
    intro other somewhere
    cases somewhere with
    | inl waits =>
        cases waits with
        | inl waits => exact placed.onPath other (Or.inl waits.1)
        | inr next =>
            obtain ⟨name, rfl⟩ := next
            exact suffix_of_cons onPath
    | inr runs =>
        cases runs with
        | inl same => exact same ▸ onPath
        | inr runs => exact placed.onPath other (Or.inr runs)
  case failed_first => exact placed.failed_first
  case below =>
    intro name other somewhere onPath'
    cases somewhere with
    | inl waits =>
        cases waits with
        | inl waits => exact Or.inr (placed.below name other (Or.inl waits.1) onPath')
        | inr next =>
            obtain ⟨name', rfl⟩ := next
            exact Or.inl (suffix_unique onPath' onPath (by simp))
    | inr runs =>
        cases runs with
        | inl same =>
            subst same
            exact Or.inr (placed.below name other (Or.inl here) onPath')
        | inr runs => exact Or.inr (placed.below name other (Or.inr runs) onPath')
  case above =>
    intro name other runs
    cases runs with
    | inl same => exact Or.inl (Or.inr ⟨name, same.symm⟩)
    | inr runs =>
        cases placed.above name other runs with
        | inl waits =>
            by_cases same : other = place
            · exact Or.inr (Or.inl same)
            · exact Or.inl (Or.inl ⟨waits, same⟩)
        | inr runs => exact Or.inr (Or.inr runs)

end Placed

end OdooConnector
