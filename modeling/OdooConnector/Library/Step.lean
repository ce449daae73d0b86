import Mathlib.Logic.Basic

/-!
# Steps that may raise

A step reads and changes a state and may raise. What holds after every run that does not raise is
put together from what holds after its parts.
-/

namespace OdooConnector

abbrev Step (σ ε : Type) := StateT σ (Except ε)

namespace Step

variable {σ τ ε α β : Type}

/-- Read the state. -/
def reads (read : σ → α) : Step σ ε α := fun state => .ok (read state, state)

/-- Change the state. -/
def changes (change : σ → σ) : Step σ ε Unit := fun state => .ok ((), change state)

/-- A run from a state of the first kind that does not raise ends as the second says. -/
def Ensures (step : Step σ ε α) (before : σ → Prop) (after : α → σ → Prop) : Prop :=
  ∀ state, before state → ∀ result final, step state = .ok (result, final) → after result final

theorem bind_eq_ok_iff {step : Step σ ε α} {rest : α → Step σ ε β} {state final : σ} {result : β} :
    (step >>= rest) state = .ok (result, final) ↔
      ∃ value mid, step state = .ok (value, mid) ∧ rest value mid = .ok (result, final) := by
  have unfolded : (step >>= rest) state = step state >>= fun pair => rest pair.1 pair.2 := rfl
  rw [unfolded]
  cases step state with
  | error error =>
      constructor
      · intro ran
        cases ran
      · intro ⟨value, mid, ran, _⟩
        cases ran
  | ok pair =>
      constructor
      · intro ran
        exact ⟨pair.1, pair.2, rfl, ran⟩
      · intro ⟨value, mid, ran, later⟩
        cases ran
        exact later

namespace Ensures

variable {before : σ → Prop} {after : α → σ → Prop} {step : Step σ ε α}

theorem bind {mid : α → σ → Prop} {rest : α → Step σ ε β} {last : β → σ → Prop}
    (first : Ensures step before mid) (second : ∀ value, Ensures (rest value) (mid value) last) :
    Ensures (step >>= rest) before last := by
  intro state holds result final ran
  obtain ⟨value, middle, ran, later⟩ := bind_eq_ok_iff.mp ran
  exact second value middle (first state holds value middle ran) result final later

theorem pure {value : α} (holds : ∀ state, before state → after value state) :
    Ensures (Pure.pure value : Step σ ε α) before after := by
  intro state start result final ran
  cases ran
  exact holds state start

theorem raise {error : ε} : Ensures (throw error : Step σ ε α) before after := by
  intro state _ result final ran
  cases ran

theorem reads {read : σ → α} (holds : ∀ state, before state → after (read state) state) :
    Ensures (reads read : Step σ ε α) before after := by
  intro state start result final ran
  cases ran
  exact holds state start

theorem changes {change : σ → σ} {after : Unit → σ → Prop}
    (holds : ∀ state, before state → after () (change state)) :
    Ensures (changes change : Step σ ε Unit) before after := by
  intro state start result final ran
  cases ran
  exact holds state start

theorem trivial : Ensures step before fun _ _ => True := fun _ _ _ _ _ => True.intro

/-- A fact that does not depend on the state. -/
theorem assuming {fact : Prop} (ensures : fact → Ensures step before after) :
    Ensures step (fun state => fact ∧ before state) after :=
  fun state holds => ensures holds.1 state holds.2

theorem of_exists {γ : Type} {before : γ → σ → Prop}
    (ensures : ∀ value, Ensures step (before value) after) :
    Ensures step (fun state => ∃ value, before value state) after := by
  intro state holds
  obtain ⟨value, holds⟩ := holds
  exact ensures value state holds

end Ensures

/-- What holds before holds after. -/
def Preserves (step : Step σ ε α) (keep : σ → Prop) : Prop :=
  Ensures step keep fun _ => keep

namespace Preserves

variable {keep : σ → Prop} {step : Step σ ε α}

theorem bind {rest : α → Step σ ε β} (first : Preserves step keep)
    (second : ∀ value, Preserves (rest value) keep) : Preserves (step >>= rest) keep :=
  Ensures.bind first second

theorem pure (value : α) : Preserves (Pure.pure value : Step σ ε α) keep :=
  Ensures.pure fun _ holds => holds

theorem reads (read : σ → α) : Preserves (Step.reads read : Step σ ε α) keep :=
  Ensures.reads fun _ holds => holds

theorem changes {change : σ → σ} (kept : ∀ state, keep state → keep (change state)) :
    Preserves (Step.changes change : Step σ ε Unit) keep :=
  Ensures.changes kept

end Preserves

/-- A step on a part of the state. -/
def zoom (read : τ → σ) (write : σ → τ → τ) (step : Step σ ε α) : Step τ ε α := fun state =>
  match step (read state) with
  | .ok (result, final) => .ok (result, write final state)
  | .error error => .error error

/-- What the step cannot write stays. -/
theorem Preserves.zoom {read : τ → σ} {write : σ → τ → τ} {step : Step σ ε α} {keep : τ → Prop}
    (kept : ∀ part state, keep state → keep (write part state)) :
    Preserves (zoom read write step) keep := by
  intro state holds result final ran
  rw [Step.zoom] at ran
  split at ran
  · cases ran
    exact kept _ state holds
  · cases ran

end Step
end OdooConnector
