import Mathlib.Algebra.Order.Field.Basic
import Mathlib.Data.List.Nodup
import Mathlib.Logic.Relation
import Mathlib.Tactic.Linarith
import Mathlib.Tactic.Ring

/-!
# Production from stock

A recipe turns some products of a stock into another one, batch by batch. What can be produced is
what some sequence of batches adds to the stock, each batch using no more than there is.
-/

namespace OdooConnector

variable {ι K : Type} [DecidableEq ι] [Field K] [LinearOrder K]

/-- One batch: its output and what it uses up. -/
structure Recipe (ι K : Type) [Zero K] [LE K] where
  output : K
  need : ι → K
  need_nonneg : ∀ item, 0 ≤ need item

/-- The stock after some batches of a product. -/
def Recipe.stockAfter (recipe : Recipe ι K) (product : ι) (batches : K) (stock : ι → K) : ι → K :=
  fun item => stock item - batches * recipe.need item +
    if item = product then batches * recipe.output else 0

@[simp] theorem Recipe.stockAfter_zero (recipe : Recipe ι K) (product : ι) (stock : ι → K) :
    recipe.stockAfter product 0 stock = stock := by
  funext item
  simp [stockAfter]

theorem Recipe.stockAfter_of_ne {recipe : Recipe ι K} {product item : ι}
    (different : item ≠ product) (batches : K) (stock : ι → K) :
    recipe.stockAfter product batches stock item = stock item - batches * recipe.need item := by
  rw [stockAfter, if_neg different, add_zero]

theorem Recipe.stockAfter_stockAfter (recipe : Recipe ι K) (product : ι) (first second : K)
    (stock : ι → K) :
    recipe.stockAfter product second (recipe.stockAfter product first stock) =
      recipe.stockAfter product (first + second) stock := by
  funext item
  simp only [stockAfter]
  split <;> ring

/-- A batch of some product for which the stock suffices. -/
def BatchStep (recipes : ι → Option (Recipe ι K)) (stock next : ι → K) : Prop :=
  ∃ product recipe, recipes product = some recipe ∧
    (∀ item, recipe.need item ≠ 0 → recipe.need item ≤ stock item) ∧
    next = recipe.stockAfter product 1 stock

/-- A sequence of batches. -/
def Production (recipes : ι → Option (Recipe ι K)) : (ι → K) → (ι → K) → Prop :=
  Relation.ReflTransGen (BatchStep recipes)

/-- Some sequence of batches adds the quantity to the stock of the product. -/
def CanProduce (recipes : ι → Option (Recipe ι K)) (stock : ι → K) (product : ι) (quantity : K) :
    Prop :=
  ∃ next, Production recipes stock next ∧ stock product + quantity ≤ next product

variable {recipes : ι → Option (Recipe ι K)} {stock next : ι → K} {product : ι}

theorem Production.trans {middle : ι → K} (first : Production recipes stock middle)
    (second : Production recipes middle next) : Production recipes stock next :=
  Relation.ReflTransGen.trans first second

/-- From every stock with the given amount of its own products, production that touches no other
products brings the target up to the bound. -/
def Serves (recipes : ι → Option (Recipe ι K)) (initial : ι → K) (own : List ι) (target : ι)
    (bound : K) : Prop :=
  ∀ stock : ι → K, (∀ item ∈ own, stock item = initial item) →
    ∃ next, Production recipes stock next ∧ bound ≤ next target ∧
      ∀ item, item ∉ own → next item = stock item

theorem serves_self {own : List ι} {initial : ι → K} {target : ι} {bound : K}
    (member : target ∈ own) (reached : bound ≤ initial target) :
    Serves recipes initial own target bound := by
  intro stock agree
  exact ⟨stock, Relation.ReflTransGen.refl, (agree target member).symm ▸ reached, fun _ _ => rfl⟩

theorem Serves.mono {own : List ι} {initial : ι → K} {target : ι} {bound less : K}
    (serves : Serves recipes initial own target bound) (le : less ≤ bound) :
    Serves recipes initial own target less := by
  intro stock agree
  obtain ⟨next, run, reached, kept⟩ := serves stock agree
  exact ⟨next, run, le.trans reached, kept⟩

/-- Targets that are served apart are served together when no product serves two of them. -/
theorem serves_all {α : Type} {own : α → List ι} {target : α → ι} (bound : α → K)
    (targeted : ∀ part, target part ∈ own part) {parts : List α}
    (nodup : (parts.flatMap own).Nodup) {initial : ι → K}
    (each : ∀ part ∈ parts, Serves recipes initial (own part) (target part) (bound part))
    {stock : ι → K} (agree : ∀ item ∈ parts.flatMap own, stock item = initial item) :
    ∃ next, Production recipes stock next ∧ (∀ part ∈ parts, bound part ≤ next (target part)) ∧
      ∀ item, item ∉ parts.flatMap own → next item = stock item := by
  induction parts generalizing stock with
  | nil => exact ⟨stock, Relation.ReflTransGen.refl, by simp, fun _ _ => rfl⟩
  | cons part parts induction =>
      rw [List.flatMap_cons] at nodup agree ⊢
      obtain ⟨_, restNodup, disjoint⟩ := List.nodup_append'.mp nodup
      obtain ⟨middle, first, reached, untouched⟩ := each part List.mem_cons_self stock
        fun item member => agree item (List.mem_append_left _ member)
      have still : ∀ item ∈ parts.flatMap own, middle item = initial item := by
        intro item member
        rw [untouched item fun inFirst => disjoint inFirst member]
        exact agree item (List.mem_append_right _ member)
      obtain ⟨next, second, others, kept⟩ := induction restNodup
        (fun other member => each other (List.mem_cons_of_mem _ member)) still
      refine ⟨next, first.trans second, ?_, ?_⟩
      · intro other member
        rcases List.mem_cons.mp member with rfl | member
        · rw [kept _ fun inRest => disjoint (targeted other) inRest]
          exact reached
        · exact others other member
      · intro item outside
        rw [List.mem_append, not_or] at outside
        rw [kept item outside.2, untouched item outside.1]

theorem Serves.canProduce {own : List ι} {quantity : K}
    (serves : Serves recipes stock own product (stock product + quantity)) :
    CanProduce recipes stock product quantity := by
  obtain ⟨next, run, reached, _⟩ := serves stock fun _ _ => rfl
  exact ⟨next, run, reached⟩

variable [IsStrictOrderedRing K]

theorem canProduce_of_nonpos {quantity : K} (nonpos : quantity ≤ 0) :
    CanProduce recipes stock product quantity :=
  ⟨stock, Relation.ReflTransGen.refl, by linarith⟩

theorem serves_of_nonpos {own : List ι} {initial : ι → K} {target : ι} {quantity : K}
    (member : target ∈ own) (nonpos : quantity ≤ 0) :
    Serves recipes initial own target (initial target + quantity) :=
  serves_self member (by linarith)

/-- A product that does not need itself is produced in as many batches as the stock allows. -/
theorem production_batches {recipe : Recipe ι K} (found : recipes product = some recipe)
    (apart : recipe.need product = 0) (count : ℕ)
    (enough : ∀ item, recipe.need item ≠ 0 → count * recipe.need item ≤ stock item) :
    Production recipes stock (recipe.stockAfter product count stock) := by
  induction count with
  | zero =>
      rw [Nat.cast_zero, Recipe.stockAfter_zero]
      exact Relation.ReflTransGen.refl
  | succ count induction =>
      have before : Production recipes stock (recipe.stockAfter product count stock) := by
        refine induction fun item needed => ?_
        have all := enough item needed
        have one := recipe.need_nonneg item
        push_cast at all
        linarith
      refine Relation.ReflTransGen.tail before ⟨product, recipe, found, ?_, ?_⟩
      · intro item needed
        have all := enough item needed
        have different : item ≠ product := by
          rintro rfl
          exact needed apart
        rw [Recipe.stockAfter_of_ne different]
        push_cast at all
        linarith
      · rw [Recipe.stockAfter_stockAfter, Nat.cast_succ]

/-- Without a recipe no batch adds to the stock of a product. -/
theorem BatchStep.le_of_none (none : recipes product = none)
    (step : BatchStep recipes stock next) : next product ≤ stock product := by
  obtain ⟨made, recipe, found, _, rfl⟩ := step
  have different : product ≠ made := by
    rintro rfl
    rw [none] at found
    contradiction
  rw [Recipe.stockAfter_of_ne different]
  have used := recipe.need_nonneg product
  linarith

theorem Production.le_of_none (none : recipes product = none)
    (run : Production recipes stock next) : next product ≤ stock product := by
  induction run with
  | refl => exact le_rfl
  | tail _ step induction => exact (step.le_of_none none).trans induction

theorem canProduce_iff_of_none (none : recipes product = none) {quantity : K} :
    CanProduce recipes stock product quantity ↔ quantity ≤ 0 := by
  constructor
  · rintro ⟨next, run, reached⟩
    have kept := run.le_of_none none
    linarith
  · exact canProduce_of_nonpos

/-- Nothing is produced when no batch can start. -/
theorem canProduce_iff_of_stuck (stuck : ∀ next, ¬ BatchStep recipes stock next) {quantity : K} :
    CanProduce recipes stock product quantity ↔ quantity ≤ 0 := by
  constructor
  · rintro ⟨next, run, reached⟩
    rcases Relation.ReflTransGen.cases_head run with rfl | ⟨middle, step, _⟩
    · linarith
    · exact absurd step (stuck middle)
  · exact canProduce_of_nonpos

end OdooConnector
