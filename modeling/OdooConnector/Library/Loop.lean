import Mathlib.Order.WellFounded

/-!
# Loops without a bound

A loop repeats a step that also tells whether to go on. It ends when a measure decreases under an
invariant, it never ends when an invariant keeps it going, and what every step establishes holds
at the end. A loop whose measure decreases except at certain events ends exactly when they cease.
-/

namespace OdooConnector

variable {σ : Type}

/-- Repeat a step while it asks for it, at most `fuel` times. -/
def runLoop (step : σ → σ × Bool) : ℕ → σ → Option σ
  | 0, _ => none
  | fuel + 1, state =>
      if (step state).2 then runLoop step fuel (step state).1 else some (step state).1

/-- The loop ends. -/
def Terminates (step : σ → σ × Bool) (state : σ) (post : σ → Prop) : Prop :=
  ∃ fuel final, runLoop step fuel state = some final ∧ post final

/-- State before a step of the loop, if the loop comes to it. -/
def stateAt (step : σ → σ × Bool) : ℕ → σ → Option σ
  | 0, state => some state
  | n + 1, state => if (step state).2 then stateAt step n (step state).1 else none

variable {step : σ → σ × Bool} (Inv : σ → Prop)

theorem terminates_of_step {state : σ} {post : σ → Prop} (again : (step state).2 = true) :
    Terminates step state post ↔ Terminates step (step state).1 post := by
  constructor
  · rintro ⟨fuel, final, run, holds⟩
    cases fuel with
    | zero => contradiction
    | succ fuel =>
        rw [runLoop, if_pos again] at run
        exact ⟨fuel, final, run, holds⟩
  · rintro ⟨fuel, final, run, holds⟩
    refine ⟨fuel + 1, final, ?_, holds⟩
    rw [runLoop, if_pos again]
    exact run

/-- A decreasing measure ends the loop, and the last step establishes the postcondition. -/
theorem terminates_of_measure (measure : σ → ℕ) {post : σ → Prop}
    (advance : ∀ state, Inv state → (step state).2 = true →
      Inv (step state).1 ∧ measure (step state).1 < measure state)
    (last : ∀ state, Inv state → (step state).2 = false → post (step state).1) {state : σ}
    (start : Inv state) : Terminates step state post := by
  induction bound : measure state using Nat.strongRecOn generalizing state with
  | ind value induction =>
      cases again : (step state).2 with
      | false =>
          refine ⟨1, (step state).1, ?_, last state start again⟩
          rw [runLoop, again, if_neg Bool.false_ne_true]
      | true =>
          obtain ⟨holds, less⟩ := advance state start again
          rw [terminates_of_step again]
          exact induction _ (bound ▸ less) holds rfl

/-- An invariant that keeps the loop going never lets it end. -/
theorem not_terminates_of_invariant
    (trapped : ∀ state, Inv state → (step state).2 = true ∧ Inv (step state).1) {state : σ}
    {post : σ → Prop} (start : Inv state) : ¬ Terminates step state post := by
  rintro ⟨fuel, final, run, _⟩
  induction fuel generalizing state with
  | zero => contradiction
  | succ fuel induction =>
      obtain ⟨again, holds⟩ := trapped state start
      rw [runLoop, if_pos again] at run
      exact induction holds run

theorem stateAt_succ {state : σ} (again : (step state).2 = true) (n : ℕ) :
    stateAt step (n + 1) state = stateAt step n (step state).1 := by
  rw [stateAt, if_pos again]

theorem stateAt_succ_iff {state after : σ} {n : ℕ} : stateAt step (n + 1) state = some after ↔
    ∃ before, stateAt step n state = some before ∧ step before = (after, true) := by
  induction n generalizing state with
  | zero =>
      simp only [stateAt, Option.ite_none_right_eq_some, Option.some_inj, exists_eq_left',
        Prod.ext_iff]
      exact and_comm
  | succ n induction =>
      cases again : (step state).2 with
      | false => simp [stateAt, again]
      | true => rw [stateAt_succ again, induction, stateAt_succ again]

/-- The loop ends within the fuel with what a step that it comes to in that time makes. -/
theorem runLoop_eq_some_iff {state final : σ} {fuel : ℕ} :
    runLoop step fuel state = some final ↔
      ∃ n < fuel, ∃ before, stateAt step n state = some before ∧ (step before).2 = false ∧
        (step before).1 = final := by
  constructor
  · intro run
    induction fuel generalizing state with
    | zero => contradiction
    | succ fuel induction =>
        rw [runLoop] at run
        cases again : (step state).2 with
        | false =>
            rw [again, if_neg Bool.false_ne_true, Option.some_inj] at run
            exact ⟨0, Nat.succ_pos fuel, state, rfl, again, run⟩
        | true =>
            rw [if_pos again] at run
            obtain ⟨n, less, before, reached, last⟩ := induction run
            exact ⟨n + 1, Nat.succ_lt_succ less, before, (stateAt_succ again n).trans reached, last⟩
  · rintro ⟨n, less, before, reached, last, rfl⟩
    induction n generalizing state fuel with
    | zero =>
        rw [stateAt, Option.some_inj] at reached
        subst reached
        obtain ⟨fuel, rfl⟩ := Nat.exists_eq_succ_of_ne_zero less.ne'
        rw [runLoop, last, if_neg Bool.false_ne_true]
    | succ n induction =>
        obtain ⟨fuel, rfl⟩ := Nat.exists_eq_succ_of_ne_zero (Nat.ne_zero_of_lt less)
        cases again : (step state).2 with
        | false => simp [stateAt, again] at reached
        | true =>
            rw [stateAt_succ again] at reached
            rw [runLoop, if_pos again]
            exact induction (Nat.lt_of_succ_lt_succ less) reached

/-- The loop ends with what its last step makes. -/
theorem exists_runLoop_iff {state final : σ} :
    (∃ fuel, runLoop step fuel state = some final) ↔
      ∃ n before, stateAt step n state = some before ∧ (step before).2 = false ∧
        (step before).1 = final := by
  constructor
  · rintro ⟨fuel, run⟩
    obtain ⟨n, -, before, last⟩ := runLoop_eq_some_iff.mp run
    exact ⟨n, before, last⟩
  · rintro ⟨n, before, last⟩
    exact ⟨n + 1, runLoop_eq_some_iff.mpr ⟨n, Nat.lt_succ_self n, before, last⟩⟩

/-- A loop that has ended comes to no further step. -/
theorem stateAt_eq_none {fuel : ℕ} {state final : σ} (run : runLoop step fuel state = some final)
    {n : ℕ} (late : fuel ≤ n) : stateAt step n state = none := by
  induction fuel generalizing state n with
  | zero => contradiction
  | succ fuel induction =>
      obtain ⟨n, rfl⟩ := Nat.exists_eq_succ_of_ne_zero (by omega : n ≠ 0)
      rw [runLoop] at run
      cases again : (step state).2 with
      | false => simp [stateAt, again]
      | true =>
          rw [if_pos again] at run
          rw [stateAt_succ again]
          exact induction run (by omega)

variable {Inv} {α : Type*} [Preorder α] [WellFoundedLT α] (measure : σ → α) {Event : σ → Prop}

/-- Without events the measure ends the loop. -/
theorem terminates_of_no_event
    (advance : ∀ state, Inv state → (step state).2 = true →
      Inv (step state).1 ∧ (Event state ∨ measure (step state).1 < measure state)) {state : σ}
    (start : Inv state)
    (quiet : ∀ n before, stateAt step n state = some before → ¬ Event before) :
    Terminates step state fun _ => True := by
  induction bound : measure state using WellFoundedLT.induction generalizing state with
  | ind value induction =>
      cases again : (step state).2 with
      | false =>
          refine ⟨1, (step state).1, ?_, trivial⟩
          rw [runLoop, again, if_neg Bool.false_ne_true]
      | true =>
          obtain ⟨holds, event | less⟩ := advance state start again
          · exact absurd event (quiet 0 state rfl)
          · rw [terminates_of_step again]
            refine induction _ (bound ▸ less) holds (fun n before reached => ?_) rfl
            exact quiet (n + 1) before ((stateAt_succ again n).trans reached)

/-- A loop whose measure decreases except at events ends exactly when the events cease. -/
theorem terminates_iff_events_cease
    (advance : ∀ state, Inv state → (step state).2 = true →
      Inv (step state).1 ∧ (Event state ∨ measure (step state).1 < measure state)) {state : σ}
    (start : Inv state) :
    Terminates step state (fun _ => True) ↔
      ∃ first, ∀ n, first ≤ n → ∀ before, stateAt step n state = some before →
        ¬ Event before := by
  constructor
  · rintro ⟨fuel, final, run, _⟩
    refine ⟨fuel, fun n late before reached => ?_⟩
    rw [stateAt_eq_none run late] at reached
    contradiction
  · rintro ⟨first, cease⟩
    induction first generalizing state with
    | zero => exact terminates_of_no_event measure advance start fun n => cease n (Nat.zero_le n)
    | succ first induction =>
        cases again : (step state).2 with
        | false =>
            refine ⟨1, (step state).1, ?_, trivial⟩
            rw [runLoop, again, if_neg Bool.false_ne_true]
        | true =>
            rw [terminates_of_step again]
            refine induction (advance state start again).1 fun n late before reached => ?_
            exact cease (n + 1) (by omega) before ((stateAt_succ again n).trans reached)

/-- Loops whose steps correspond end together. -/
theorem terminates_map {τ : Type} {step' : τ → τ × Bool} (image : σ → τ)
    (commutes : ∀ state, step' (image state) = (image (step state).1, (step state).2)) (state : σ)
    (post : τ → Prop) :
    Terminates step state (fun final => post (image final)) ↔
      Terminates step' (image state) post := by
  have run (fuel : ℕ) (state : σ) :
      runLoop step' fuel (image state) = (runLoop step fuel state).map image := by
    induction fuel generalizing state with
    | zero => rfl
    | succ fuel induction =>
        rw [runLoop, runLoop, commutes]
        dsimp only
        split
        · exact induction _
        · rfl
  constructor
  · rintro ⟨fuel, final, ends, holds⟩
    exact ⟨fuel, image final, by rw [run, ends, Option.map_some], holds⟩
  · rintro ⟨fuel, final, ends, holds⟩
    rw [run, Option.map_eq_some_iff] at ends
    obtain ⟨state', ends, rfl⟩ := ends
    exact ⟨fuel, state', ends, holds⟩

end OdooConnector
