import Mathlib.Data.List.Basic
import OdooConnector.Inventory.Bom

/-!
# Templates that use a product

The search for the templates whose bills use a product, and the bills that use those templates, and
so on, visits every template at any depth.
-/

namespace OdooConnector.Inventory

/-- A bill of materials with the products of its lines. -/
structure MrpBom (ι τ : Type) where
  productTmplId : τ
  type : BomType
  bomLineIds : List ι

/-- Products, templates and bills. -/
structure Catalog (ι τ : Type) where
  productTmplId : ι → τ
  productVariantIds : τ → List ι
  boms : List (MrpBom ι τ)
  /-- `integration_should_export_inventory`. -/
  integrationShouldExportInventory : τ → Bool
  companyId : τ → Option ℕ

namespace Catalog

variable {ι τ : Type} [DecidableEq ι] (catalog : Catalog ι τ)

/-- Bills with a line for one of the products. -/
def bomsOf (products : List ι) : List (MrpBom ι τ) :=
  catalog.boms.filter fun bom =>
    bom.bomLineIds.any (fun product => products.contains product) &&
      (bom.type = .phantom || bom.type = .normal)

/-- Templates of the bills with a line for one of the products. -/
def parents (products : List ι) : List τ := (catalog.bomsOf products).map MrpBom.productTmplId

/-- Variants of these templates that were not visited. -/
def children (products visited : List ι) : List ι :=
  ((catalog.parents products).flatMap catalog.productVariantIds).filter fun variant =>
    !visited.contains variant

/-- The recursion of `get_bom_parent_templates_recursively`, with the variants visited so far and
the present ones among them. -/
def parentTemplates : ℕ → List ι → List ι → List τ
  | 0, _, _ => []
  | fuel + 1, products, visited =>
      if (catalog.bomsOf products).isEmpty then []
      else
        catalog.parents products ++ parentTemplates fuel (catalog.children products visited)
          (visited ++ catalog.children products visited)

/-- Variants of the templates with a bill. -/
def bomVariants : List ι :=
  (catalog.boms.map MrpBom.productTmplId).flatMap catalog.productVariantIds

/-- `get_bom_parent_templates_recursively`. Every call but the last visits a new variant. -/
def getBomParentTemplatesRecursively (product : ι) : List τ :=
  catalog.parentTemplates (catalog.bomVariants.length + 1) [product] [product]

/-- A template uses a product as a component: a bill of the template has a line for the product or
for a variant of a template that uses it. -/
inductive Uses : ι → τ → Prop
  | line {product : ι} {bom : MrpBom ι τ} (known : bom ∈ catalog.boms)
      (listed : product ∈ bom.bomLineIds) : Uses product bom.productTmplId
  | deeper {product variant : ι} {template : τ} {bom : MrpBom ι τ} (uses : Uses product template)
      (variantOf : variant ∈ catalog.productVariantIds template) (known : bom ∈ catalog.boms)
      (listed : variant ∈ bom.bomLineIds) : Uses product bom.productTmplId

theorem mem_bomsOf {products : List ι} {bom : MrpBom ι τ} :
    bom ∈ catalog.bomsOf products ↔
      bom ∈ catalog.boms ∧ ∃ product ∈ bom.bomLineIds, product ∈ products := by
  have anyType : (decide (bom.type = .phantom) || decide (bom.type = .normal)) = true := by
    cases bom.type <;> rfl
  rw [bomsOf, List.mem_filter, anyType, Bool.and_true, List.any_eq_true]
  simp only [List.contains_iff_mem]

theorem parentTemplates_nil (fuel : ℕ) (visited : List ι) :
    catalog.parentTemplates fuel [] visited = [] := by
  cases fuel with
  | zero => rfl
  | succ fuel =>
      have none : catalog.bomsOf [] = [] := by
        refine List.eq_nil_iff_forall_not_mem.mpr fun bom member => ?_
        obtain ⟨-, product, -, inside⟩ := catalog.mem_bomsOf.mp member
        exact List.not_mem_nil inside
      simp [parentTemplates, none]

/-- Variants that are not visited. -/
def unvisited (visited : List ι) : ℕ :=
  (catalog.bomVariants.filter fun variant => !visited.contains variant).length

theorem unvisited_lt {visited children : List ι} {variant : ι}
    (fresh : variant ∉ visited) (member : variant ∈ children)
    (known : variant ∈ catalog.bomVariants) :
    catalog.unvisited (visited ++ children) < catalog.unvisited visited := by
  have fewer : (catalog.bomVariants.filter fun variant =>
      !(visited ++ children).contains variant) =
      (catalog.bomVariants.filter fun variant => !visited.contains variant).filter fun variant =>
        !children.contains variant := by
    rw [List.filter_filter]
    refine List.filter_congr fun other _ => ?_
    by_cases old : other ∈ visited
    · simp [old]
    · by_cases new : other ∈ children
      · simp [new]
      · simp [old, new]
  rw [unvisited, unvisited, fewer]
  refine List.length_filter_lt_length_iff_exists.mpr ⟨variant, ?_, ?_⟩
  · simp [known, fresh]
  · simp [member]

/-- A call that has children visits new variants. -/
theorem unvisited_children_lt {products visited : List ι} {child : ι}
    (chosen : child ∈ catalog.children products visited) :
    catalog.unvisited (visited ++ catalog.children products visited) <
      catalog.unvisited visited := by
  obtain ⟨variantOf, fresh⟩ := List.mem_filter.mp chosen
  have known : child ∈ catalog.bomVariants := by
    obtain ⟨template, member, variantOf⟩ := List.mem_flatMap.mp variantOf
    obtain ⟨bom, listed, rfl⟩ := List.mem_map.mp member
    exact List.mem_flatMap.mpr
      ⟨_, List.mem_map_of_mem (catalog.mem_bomsOf.mp listed).1, variantOf⟩
  exact catalog.unvisited_lt (by simpa using fresh) chosen known

/-- The variants visited in the end contain those of all templates found, and the templates with a
bill for a variant visited from now on are found. -/
theorem parentTemplates_closed (fuel : ℕ) (products visited : List ι)
    (enough : catalog.unvisited visited < fuel) :
    ∃ final : List ι, (∀ variant ∈ visited, variant ∈ final) ∧
      (∀ variant ∈ final, variant ∈ products ∨ variant ∉ visited → ∀ bom ∈ catalog.boms,
        variant ∈ bom.bomLineIds →
          bom.productTmplId ∈ catalog.parentTemplates fuel products visited) ∧
      ∀ template ∈ catalog.parentTemplates fuel products visited,
        ∀ variant ∈ catalog.productVariantIds template, variant ∈ final := by
  induction fuel generalizing products visited with
  | zero => omega
  | succ fuel induction =>
      rw [parentTemplates]
      split
      · rename_i none
        rw [List.isEmpty_iff] at none
        refine ⟨visited, fun _ => id, fun variant member fresh bom known listed => ?_, by simp⟩
        have present : variant ∈ products := fresh.resolve_right (not_not_intro member)
        have found := catalog.mem_bomsOf.mpr ⟨known, variant, listed, present⟩
        simp [none] at found
      · have direct (variant : ι) (present : variant ∈ products) (bom : MrpBom ι τ)
            (known : bom ∈ catalog.boms) (listed : variant ∈ bom.bomLineIds) :
            bom.productTmplId ∈ catalog.parents products :=
          List.mem_map_of_mem (catalog.mem_bomsOf.mpr ⟨known, variant, listed, present⟩)
        have covered (template : τ) (member : template ∈ catalog.parents products) (variant : ι)
            (variantOf : variant ∈ catalog.productVariantIds template) :
            variant ∈ visited ++ catalog.children products visited := by
          by_cases old : variant ∈ visited
          · exact List.mem_append_left _ old
          · refine List.mem_append_right _ (List.mem_filter.mpr ⟨?_, by simpa using old⟩)
            exact List.mem_flatMap.mpr ⟨template, member, variantOf⟩
        cases new : catalog.children products visited with
        | nil =>
            rw [new, List.append_nil] at covered
            rw [parentTemplates_nil, List.append_nil]
            refine ⟨visited, fun _ => id, fun variant member fresh => ?_, covered⟩
            exact direct variant (fresh.resolve_right (not_not_intro member))
        | cons child others =>
            rw [new] at covered
            have chosen : child ∈ catalog.children products visited := new ▸ List.mem_cons_self
            have less := catalog.unvisited_children_lt chosen
            rw [new] at less
            obtain ⟨final, keeps, finds, closes⟩ :=
              induction (child :: others) (visited ++ child :: others) (by omega)
            refine ⟨final, fun variant member => keeps variant (List.mem_append_left _ member),
              fun variant member start bom known listed => ?_, fun template member => ?_⟩
            · by_cases present : variant ∈ products
              · exact List.mem_append_left _ (direct variant present bom known listed)
              · refine List.mem_append_right _ (finds variant member ?_ bom known listed)
                by_cases new : variant ∈ child :: others
                · exact Or.inl new
                · refine Or.inr fun old => ?_
                  obtain old | old := List.mem_append.mp old
                  · exact (start.resolve_left present) old
                  · exact new old
            · obtain parent | later := List.mem_append.mp member
              · exact fun variant variantOf =>
                  keeps variant (covered template parent variant variantOf)
              · exact closes template later

/-- Templates found for variants of templates that use one of the products use one of them. -/
theorem uses_of_parentTemplates {start : List ι} (fuel : ℕ) (products visited : List ι)
    (related : ∀ variant ∈ products, variant ∈ start ∨ ∃ product ∈ start,
      ∃ template, catalog.Uses product template ∧ variant ∈ catalog.productVariantIds template)
    {template : τ} (found : template ∈ catalog.parentTemplates fuel products visited) :
    ∃ product ∈ start, catalog.Uses product template := by
  induction fuel generalizing products visited with
  | zero => exact (List.not_mem_nil found).elim
  | succ fuel induction =>
      have direct (parent : τ) (member : parent ∈ catalog.parents products) :
          ∃ product ∈ start, catalog.Uses product parent := by
        obtain ⟨bom, listed, rfl⟩ := List.mem_map.mp member
        obtain ⟨known, variant, listed, present⟩ := catalog.mem_bomsOf.mp listed
        rcases related variant present with origin | ⟨product, origin, lower, uses, variantOf⟩
        · exact ⟨variant, origin, .line known listed⟩
        · exact ⟨product, origin, .deeper uses variantOf known listed⟩
      rw [parentTemplates] at found
      split at found
      · exact (List.not_mem_nil found).elim
      · obtain parent | later := List.mem_append.mp found
        · exact direct template parent
        · refine induction _ _ (fun variant member => Or.inr ?_) later
          obtain ⟨parent, member, variantOf⟩ := List.mem_flatMap.mp (List.mem_filter.mp member).1
          obtain ⟨product, origin, uses⟩ := direct parent member
          exact ⟨product, origin, parent, uses, variantOf⟩

/-- With enough calls exactly the templates that use one of the products are found, provided that
none but the products themselves was visited before. -/
theorem mem_parentTemplates_iff {fuel : ℕ} {products visited : List ι}
    (enough : catalog.unvisited visited < fuel) (inside : ∀ variant ∈ products, variant ∈ visited)
    (marked : ∀ variant ∈ visited, variant ∈ products) {template : τ} :
    template ∈ catalog.parentTemplates fuel products visited ↔
      ∃ product ∈ products, catalog.Uses product template := by
  constructor
  · exact catalog.uses_of_parentTemplates _ _ _ fun variant member => Or.inl member
  · rintro ⟨product, start, uses⟩
    obtain ⟨final, keeps, finds, closes⟩ :=
      catalog.parentTemplates_closed fuel products visited enough
    induction uses with
    | line known listed =>
        exact finds _ (keeps _ (inside _ start)) (Or.inl start) _ known listed
    | deeper uses variantOf known listed induction =>
        refine finds _ (closes _ induction _ variantOf) ?_ _ known listed
        exact or_iff_not_imp_right.mpr fun old => marked _ (not_not.mp old)

/-- Exactly the templates that use the product, at any depth, are found. -/
theorem mem_getBomParentTemplatesRecursively {product : ι} {template : τ} :
    template ∈ catalog.getBomParentTemplatesRecursively product ↔
      catalog.Uses product template := by
  have enough : catalog.unvisited [product] < catalog.bomVariants.length + 1 :=
    Nat.lt_succ_of_le (List.length_filter_le _ _)
  rw [getBomParentTemplatesRecursively,
    catalog.mem_parentTemplates_iff enough (fun _ => id) fun _ => id]
  simp

/-! ## Variants visited before -/

/-- `get_bom_parent_templates_recursively` on several variants, with those that the caller names as
visited. There is no result where the calls do not end within the bound. -/
def parentTemplatesWithin : ℕ → List ι → List ι → Option (List τ)
  | 0, _, _ => none
  | calls + 1, products, visitedVariants =>
      let visited := visitedVariants ++ products
      if (catalog.bomsOf products).isEmpty then some []
      else
        (parentTemplatesWithin calls (catalog.children products visited) visited).map
          fun recursive => catalog.parents products ++ recursive

theorem parentTemplatesWithin_nil (calls : ℕ) (visited : List ι) :
    catalog.parentTemplatesWithin (calls + 1) [] visited = some [] := by
  have none : catalog.bomsOf [] = [] := by
    apply List.eq_nil_iff_forall_not_mem.mpr
    intro bom member
    obtain ⟨-, product, -, inside⟩ := catalog.mem_bomsOf.mp member
    exact List.not_mem_nil inside
  simp [parentTemplatesWithin, none]

/-- Where the calls suffice, the recursion is the one that counts the present variants as visited:
each call but the last two visits a new variant. -/
theorem parentTemplatesWithin_eq {calls : ℕ} {products visited : List ι}
    (enough : catalog.unvisited (visited ++ products) + 1 < calls) :
    catalog.parentTemplatesWithin calls products visited =
      some (catalog.parentTemplates calls products (visited ++ products)) := by
  induction calls generalizing products visited with
  | zero => omega
  | succ calls induction =>
      rw [parentTemplatesWithin, parentTemplates]
      split
      · rfl
      · cases new : catalog.children products (visited ++ products) with
        | nil =>
            obtain ⟨rest, rfl⟩ : ∃ rest, calls = rest + 1 := ⟨calls - 1, by omega⟩
            rw [parentTemplatesWithin_nil, List.append_nil, parentTemplates_nil]
            rfl
        | cons child others =>
            have chosen : child ∈ catalog.children products (visited ++ products) :=
              new ▸ List.mem_cons_self
            have less := catalog.unvisited_children_lt chosen
            rw [new] at less
            rw [induction (by omega)]
            rfl

/-- More calls do not change a result. -/
theorem parentTemplatesWithin_mono {calls more : ℕ} {products visited : List ι}
    {templates : List τ}
    (ran : catalog.parentTemplatesWithin calls products visited = some templates)
    (enough : calls ≤ more) :
    catalog.parentTemplatesWithin more products visited = some templates := by
  induction calls generalizing more products visited templates with
  | zero => cases ran
  | succ calls induction =>
      obtain ⟨rest, rfl⟩ : ∃ rest, more = rest + 1 := ⟨more - 1, by omega⟩
      rw [parentTemplatesWithin] at ran ⊢
      split at ran
      · rename_i none
        rw [if_pos none]
        exact ran
      · rename_i some
        obtain ⟨recursive, ends, same⟩ := Option.map_eq_some_iff.mp ran
        rw [if_neg some, induction ends (by omega)]
        exact congrArg Option.some same

/-- Whatever bills there are, the recursion ends and finds exactly the templates that use one of the
variants, also where the caller names some of these variants as visited. -/
theorem parent_templates_found (products visitedVariants : List ι)
    (marked : ∀ variant ∈ visitedVariants, variant ∈ products) :
    ∃ templates calls, (∀ more ≥ calls,
        catalog.parentTemplatesWithin more products visitedVariants = some templates) ∧
      ∀ template, template ∈ templates ↔ ∃ product ∈ products, catalog.Uses product template := by
  have bounded : catalog.unvisited (visitedVariants ++ products) ≤ catalog.bomVariants.length :=
    List.length_filter_le _ _
  have ran : catalog.parentTemplatesWithin (catalog.bomVariants.length + 2) products
      visitedVariants = some (catalog.parentTemplates (catalog.bomVariants.length + 2) products
        (visitedVariants ++ products)) :=
    catalog.parentTemplatesWithin_eq (by omega)
  refine ⟨_, _, fun more enough => catalog.parentTemplatesWithin_mono ran enough, ?_⟩
  intro template
  apply catalog.mem_parentTemplates_iff (by omega)
  · exact fun _ => List.mem_append_right _
  · intro variant member
    rcases List.mem_append.mp member with before | present
    · exact marked variant before
    · exact present

end Catalog

/-! ## Two sets that contain each other -/

/-- A table and a bench, each with a line in the bill of the other. -/
def furniture : Catalog ℕ ℕ where
  productTmplId := fun product => product
  productVariantIds := fun template => [template]
  boms := [⟨1, .normal, [0, 2]⟩, ⟨2, .phantom, [1]⟩]
  integrationShouldExportInventory := fun _ => true
  companyId := fun _ => none

/-- The caller has visited the screw and the bench of the three variants that it asks for. -/
theorem furniture_templates_found : ∃ templates calls, (∀ more ≥ calls,
      furniture.parentTemplatesWithin more [0, 1, 2] [0, 2] = some templates) ∧
    ∀ template, template ∈ templates ↔ ∃ product ∈ [0, 1, 2], furniture.Uses product template :=
  furniture.parent_templates_found [0, 1, 2] [0, 2] (by decide)

end OdooConnector.Inventory
