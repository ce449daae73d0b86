import Mathlib.Algebra.Order.BigOperators.Group.List
import Mathlib.Algebra.Order.Monoid.NatCast
import Mathlib.Algebra.Order.Ring.Nat
import Mathlib.Logic.Relation

/-!
# Worklists

A worklist is taken from the front. An element seen before is dropped; any other is processed and
its successors are put at the end. With enough fuel, the elements processed are those reachable
from the first worklist.
-/

namespace OdooConnector

open Relation

variable {α β κ : Type*} [DecidableEq κ]

/-- Process the elements of a worklist, with the keys of the elements seen so far. -/
def visit (successors : α → List α) (key : α → κ) (process : β → α → β) :
    ℕ → β → List κ → List α → β
  | 0, result, _, _ => result
  | _ + 1, result, _, [] => result
  | fuel + 1, result, seen, current :: stack =>
      if key current ∈ seen then visit successors key process fuel result seen stack
      else visit successors key process fuel (process result current) (key current :: seen)
        (stack ++ successors current)

/-- Number of successors of the elements not seen. -/
def unseen (successors : α → List α) (key : α → κ) (domain : List α) (seen : List κ) : ℕ :=
  (domain.map fun element => if key element ∈ seen then 0 else (successors element).length).sum

variable {successors : α → List α} {key : α → κ} {domain : List α}

private theorem unseen_cons_le (seen : List κ) (new : κ) :
    unseen successors key domain (new :: seen) ≤ unseen successors key domain seen := by
  refine List.sum_le_sum fun element _ => ?_
  by_cases old : key element ∈ seen
  · simp [old]
  · rw [if_neg old]
    split <;> omega

variable (successors) in
theorem unseen_cons {seen : List κ} {current : α} (member : current ∈ domain)
    (fresh : key current ∉ seen) :
    unseen successors key domain (key current :: seen) + (successors current).length ≤
      unseen successors key domain seen := by
  induction domain with
  | nil => simp at member
  | cons element rest induction =>
      simp only [unseen, List.map_cons, List.sum_cons] at induction ⊢
      obtain rfl | later := List.mem_cons.mp member
      · have less : unseen successors key rest (key current :: seen) ≤ _ := unseen_cons_le _ _
        simp only [unseen] at less
        simp only [List.mem_cons_self, if_true, fresh, if_false]
        omega
      · have less := induction later
        have here : (if key element ∈ key current :: seen then 0
            else (successors element).length) ≤
            if key element ∈ seen then 0 else (successors element).length := by
          by_cases old : key element ∈ seen
          · simp [old]
          · rw [if_neg old]
            split <;> omega
        omega

variable (process : β → α → β)
variable (closed : ∀ element ∈ domain, ∀ next ∈ successors element, next ∈ domain)
variable (identified : ∀ left ∈ domain, ∀ right ∈ domain, key left = key right → left = right)
include closed identified

/-- The elements processed, with those seen before, contain the worklist and are closed under
successors, and each of them is reachable from the worklist. -/
theorem visit_order (fuel : ℕ) (result : β) (before stack : List α)
    (beforeDomain : ∀ element ∈ before, element ∈ domain)
    (stackDomain : ∀ element ∈ stack, element ∈ domain)
    (enough : stack.length + unseen successors key domain (before.map key) ≤ fuel) :
    ∃ order : List α, visit successors key process fuel result (before.map key) stack =
        order.foldl process result ∧
      (∀ element ∈ stack, element ∈ before ∨ element ∈ order) ∧
      (∀ element ∈ order, ∀ next ∈ successors element, next ∈ before ∨ next ∈ order) ∧
      ∀ element ∈ order, ∃ start ∈ stack,
        ReflTransGen (fun source target => target ∈ successors source) start element := by
  induction fuel generalizing result before stack with
  | zero =>
      obtain rfl : stack = [] := List.length_eq_zero_iff.mp (by omega)
      exact ⟨[], rfl, by simp, by simp, by simp⟩
  | succ fuel induction =>
      cases stack with
      | nil => exact ⟨[], rfl, by simp, by simp, by simp⟩
      | cons current stack =>
          have inDomain := stackDomain current List.mem_cons_self
          have restDomain : ∀ element ∈ stack, element ∈ domain :=
            fun element member => stackDomain element (List.mem_cons_of_mem _ member)
          rw [List.length_cons] at enough
          rw [visit]
          split
          · rename_i old
            obtain ⟨twin, seen, same⟩ := List.mem_map.mp old
            obtain rfl := identified twin (beforeDomain twin seen) current inDomain same
            obtain ⟨order, run, covers, closes, reached⟩ :=
              induction result before stack beforeDomain restDomain (by omega)
            refine ⟨order, run, ?_, closes, fun element member => ?_⟩
            · rintro element (_ | ⟨_, member⟩)
              · exact Or.inl seen
              · exact covers element member
            · obtain ⟨start, queued, path⟩ := reached element member
              exact ⟨start, List.mem_cons_of_mem _ queued, path⟩
          · rename_i fresh
            have less := unseen_cons successors inDomain fresh
            obtain ⟨order, run, covers, closes, reached⟩ :=
              induction (process result current) (current :: before)
                (stack ++ successors current)
                (by
                  rintro element (_ | ⟨_, member⟩)
                  · exact inDomain
                  · exact beforeDomain element member)
                (by
                  intro element member
                  obtain member | member := List.mem_append.mp member
                  · exact restDomain element member
                  · exact closed current inDomain element member)
                (by rw [List.length_append, List.map_cons]; omega)
            refine ⟨current :: order, run, ?_, ?_, ?_⟩
            · rintro element (_ | ⟨_, member⟩)
              · exact Or.inr List.mem_cons_self
              · obtain found | found := covers element (List.mem_append_left _ member)
                · obtain rfl | found := List.mem_cons.mp found
                  · exact Or.inr List.mem_cons_self
                  · exact Or.inl found
                · exact Or.inr (List.mem_cons_of_mem _ found)
            · intro element member next follows
              have found : next ∈ current :: before ∨ next ∈ order := by
                obtain rfl | member := List.mem_cons.mp member
                · exact covers next (List.mem_append_right _ follows)
                · exact closes element member next follows
              obtain found | found := found
              · obtain rfl | found := List.mem_cons.mp found
                · exact Or.inr List.mem_cons_self
                · exact Or.inl found
              · exact Or.inr (List.mem_cons_of_mem _ found)
            · intro element member
              obtain rfl | member := List.mem_cons.mp member
              · exact ⟨element, List.mem_cons_self, .refl⟩
              · obtain ⟨start, queued, path⟩ := reached element member
                obtain queued | queued := List.mem_append.mp queued
                · exact ⟨start, List.mem_cons_of_mem _ queued, path⟩
                · exact ⟨current, List.mem_cons_self, .head queued path⟩

/-- From one element, exactly the reachable elements are processed. -/
theorem visit_reachable (fuel : ℕ) (result : β) (start : α) (inDomain : start ∈ domain)
    (enough : 1 + unseen successors key domain [] ≤ fuel) :
    ∃ order : List α,
      visit successors key process fuel result [] [start] = order.foldl process result ∧
      ∀ element, element ∈ order ↔
        ReflTransGen (fun source target => target ∈ successors source) start element := by
  obtain ⟨order, run, covers, closes, reached⟩ :=
    visit_order process closed identified fuel result [] [start] (by simp)
      (by simpa using inDomain) (by simpa using enough)
  refine ⟨order, run, fun element => ⟨fun member => ?_, fun path => ?_⟩⟩
  · obtain ⟨first, queued, path⟩ := reached element member
    obtain rfl := List.mem_singleton.mp queued
    exact path
  · induction path with
    | refl => simpa using covers start List.mem_cons_self
    | tail _ follows induction => simpa using closes _ induction _ follows

end OdooConnector
