import Mathlib.Data.List.MinMax
import Mathlib.Data.List.Sort
import Mathlib.Data.Rat.Floor
import OdooConnector.Library.Fold
import OdooConnector.Library.Joining

/-!
# Import of kits

The components of a kit come with a product. They are compared with the kits that the template has:
the lines of the kits are collected one kit after another, and the first kit with as many lines as
there are components is kept if all lines collected up to it are the components as a set. Kits
before it are archived. Otherwise a new kit is created.
-/

namespace OdooConnector.Catalog

inductive BomType
  | normal
  | phantom
  deriving DecidableEq

/-- A line of a bill of materials. -/
structure KitLine where
  productId : ℕ
  productQty : ℚ
  deriving DecidableEq

structure MrpBom where
  id : ℕ
  active : Bool
  type : BomType
  productTmplId : ℕ
  productId : Option ℕ
  companyId : Option ℕ
  sequence : ℤ
  bomLineIds : List KitLine
  deriving DecidableEq

/-- The bills of materials of all products. -/
structure Boms where
  records : List MrpBom
  distinct : (records.map MrpBom.id).Nodup

structure KitTemplate where
  id : ℕ
  companyId : Option ℕ

/-- What the manufacturing app decides: the order of the variants, which bills of materials it lets
one archive, and which new ones it accepts. -/
structure Mrp where
  variantRank : Option ℕ → ℕ
  archives : MrpBom → Bool
  accepts : ℕ → List KitLine → Bool

structure KitComponent where
  /-- Missing if the data has no such key. -/
  productId : Option String
  odooVariantId : Option ℕ
  quantity : ℚ

inductive KitError
  | productIdMissed
  | productCodeEmpty
  | notImported (code : String)
  | bomRefused
  deriving DecidableEq

/-- The products that are mapped, and those that an import from the store finds or creates. -/
structure ProductLookup where
  mapped : String → Option ℕ
  imported : String → Option ℕ

def ProductLookup.tryGetOdooProduct (lookup : ProductLookup) (component : KitComponent) :
    Except KitError ℕ :=
  match component.productId with
  | none => .error .productIdMissed
  | some code =>
      match component.odooVariantId with
      | some variant => .ok variant
      | none =>
          if code = "" then .error .productCodeEmpty
          else match lookup.mapped code with
            | some product => .ok product
            | none =>
                match lookup.imported code with
                | some product => .ok product
                | none => .error (.notImported code)

/-- `int`, which cuts off a fraction. -/
def pyInt (quantity : ℚ) : ℤ := if 0 ≤ quantity then ⌊quantity⌋ else ⌈quantity⌉

/-- A line of a kit as it is compared. -/
def KitLine.serialize (line : KitLine) : ℕ × ℤ := (line.productId, pyInt line.productQty)

def MrpBom.kitLines (bom : MrpBom) : List (ℕ × ℤ) := bom.bomLineIds.map KitLine.serialize

/-- The order `sequence, product_id, id`. -/
def Mrp.Before (mrp : Mrp) (left right : MrpBom) : Prop :=
  left.sequence < right.sequence ∨
    (left.sequence = right.sequence ∧
      (mrp.variantRank left.productId < mrp.variantRank right.productId ∨
        (mrp.variantRank left.productId = mrp.variantRank right.productId ∧ left.id ≤ right.id)))

instance (mrp : Mrp) : DecidableRel mrp.Before := fun _ _ => inferInstanceAs (Decidable (_ ∨ _))

namespace Boms

variable (boms : Boms)

/-- Records are changed but not their ids. -/
def update (change : MrpBom → MrpBom) (keeps : ∀ bom, (change bom).id = bom.id) : Boms where
  records := boms.records.map change
  distinct := by
    rw [List.map_map]
    exact (List.map_congr_left fun bom _ => keeps bom).symm ▸ boms.distinct

def nextId : ℕ := (boms.records.map MrpBom.id).foldr max 0 + 1

def create (bom : MrpBom) : Boms where
  records := boms.records ++ [{ bom with id := boms.nextId }]
  distinct := by
    rw [List.map_append, List.map_singleton, ← List.concat_eq_append, List.nodup_concat]
    refine ⟨fun listed => ?_, boms.distinct⟩
    exact absurd (List.le_max_of_le' 0 listed le_rfl) (Nat.not_succ_le_self _)

/-- `toggle_active` of active records. -/
def archive (ids : List ℕ) : Boms :=
  boms.update (fun bom => if bom.id ∈ ids then { bom with active := false } else bom) fun bom => by
    split <;> rfl

def setSequence (id : ℕ) (sequence : ℤ) : Boms :=
  boms.update (fun bom => if bom.id = id then { bom with sequence } else bom) fun bom => by
    split <;> rfl

/-- The records get the sequences from one on, in the order of their ids. -/
def resequence (ids : List ℕ) : Boms :=
  boms.update
    (fun bom => if bom.id ∈ ids then { bom with sequence := ids.idxOf bom.id + 1 } else bom)
    fun bom => by
      split <;> rfl

def getIntegrationKits (mrp : Mrp) (company : ℕ) (template : KitTemplate) : List MrpBom :=
  (boms.records.filter fun bom => bom.active && bom.type = .phantom &&
    bom.productTmplId = template.id && (bom.companyId = some company || bom.companyId = none))
      |>.insertionSort mrp.Before

end Boms

def sameSet (left right : List (ℕ × ℤ)) : Bool :=
  left.all right.contains && right.all left.contains

/-- The loop over the existing kits: the kit that is kept, and the kits that are archived. -/
def scanKits (mrp : Mrp) (incoming : List (ℕ × ℤ)) :
    List (ℕ × ℤ) → List MrpBom → Option MrpBom × List ℕ
  | _, [] => (none, [])
  | existing, record :: kits =>
      if record.bomLineIds = [] then scanKits mrp incoming existing kits
      else if record.bomLineIds.length = incoming.length &&
          sameSet incoming (existing ++ record.kitLines) then
        (some record, [])
      else
        let rest := scanKits mrp incoming (existing ++ record.kitLines) kits
        (rest.1, if mrp.archives record then record.id :: rest.2 else rest.2)

/-- The values of a kit that is created, without its id. -/
def KitTemplate.newKit (template : KitTemplate) (lines : List KitLine) : MrpBom where
  id := 0
  active := true
  type := .phantom
  productTmplId := template.id
  productId := none
  companyId := template.companyId
  sequence := 0
  bomLineIds := lines

/-- `_create_boms`: the id of the kit, and the bills of materials after the import. -/
def createBoms (mrp : Mrp) (lookup : ProductLookup) (company : ℕ) (template : KitTemplate)
    (boms : Boms) (components : List KitComponent) : Except KitError (ℕ × Boms) := do
  let variants ← components.mapM lookup.tryGetOdooProduct
  let incoming := variants.zipWith (fun variant component => (variant, pyInt component.quantity))
    components
  let kits := boms.getIntegrationKits mrp company template
  let scanned := scanKits mrp incoming [] kits
  let archived := boms.archive scanned.2
  match scanned.1 with
  | some kit =>
      return (kit.id, (archived.setSequence kit.id 0).resequence
        ((kits.map MrpBom.id).filter fun id => id ≠ kit.id))
  | none =>
      let lines := incoming.map fun line => ⟨line.1, line.2⟩
      if mrp.accepts template.id lines then
        return (archived.nextId,
          (archived.create (template.newKit lines)).resequence (kits.map MrpBom.id))
      else .error .bomRefused

/-! ## The import that is meant -/

/-- The lines that a kit of these components has. -/
def componentLines (variants : List ℕ) (components : List KitComponent) : List KitLine :=
  variants.zipWith (fun variant component => ⟨variant, component.quantity⟩) components

/-- The kit that is returned has exactly the lines and comes first; an existing kit with these lines
is kept, and no other one is created then. -/
structure KitImported (mrp : Mrp) (company : ℕ) (template : KitTemplate) (boms after : Boms)
    (kit : ℕ) (lines : List KitLine) : Prop where
  exact : ∃ record ∈ after.records, record.id = kit ∧ record.bomLineIds.Perm lines
  first : (after.getIntegrationKits mrp company template).head?.map MrpBom.id = some kit
  kept : (∃ record ∈ boms.getIntegrationKits mrp company template, record.bomLineIds.Perm lines) →
    (∃ record ∈ boms.getIntegrationKits mrp company template,
      record.bomLineIds.Perm lines ∧ record.id = kit) ∧
      after.records.map MrpBom.id = boms.records.map MrpBom.id

/-- Up to the first existing kit with exactly the lines, no kit looks like them without being one,
and none has another line. If there is no such kit, then a new one is accepted and belongs to the
company of the integration or to none. -/
structure KitsClear (mrp : Mrp) (company : ℕ) (template : KitTemplate) (kits : List MrpBom)
    (lines : List KitLine) : Prop where
  nonempty : lines ≠ []
  noLookalike : ∀ before kit after, kits = before ++ kit :: after →
    (∀ earlier ∈ before, ¬ earlier.bomLineIds.Perm lines) →
      kit.bomLineIds.length = lines.length →
        (∀ own ∈ before ++ [kit], own.kitLines ⊆ lines.map KitLine.serialize) →
          lines.map KitLine.serialize ⊆ (before ++ [kit]).flatMap MrpBom.kitLines →
            kit.bomLineIds.Perm lines
  noOtherLine : ∀ before kit after, kits = before ++ kit :: after → kit.bomLineIds.Perm lines →
    (∀ earlier ∈ before, ¬ earlier.bomLineIds.Perm lines) →
      ∀ earlier ∈ before, earlier.kitLines ⊆ lines.map KitLine.serialize
  created : (∀ kit ∈ kits, ¬ kit.bomLineIds.Perm lines) →
    mrp.accepts template.id lines ∧
      (template.companyId = some company ∨ template.companyId = none)

/-- The first element that meets a condition. -/
theorem exists_first {α : Type*} {holds : α → Prop} {list : List α}
    (some : ∃ element ∈ list, holds element) :
    ∃ before element after, list = before ++ element :: after ∧ holds element ∧
      ∀ earlier ∈ before, ¬ holds earlier := by
  induction list with
  | nil => simp at some
  | cons head list induction =>
      by_cases own : holds head
      · exact ⟨[], head, list, rfl, own, by simp⟩
      · obtain ⟨before, element, after, rfl, meets, none⟩ := induction (by simpa [own] using some)
        exact ⟨head :: before, element, after, rfl, meets, by simpa [own] using none⟩

/-! ## The loop over the kits -/

/-- A kit is taken for the incoming one, after the lines of the kits before it. -/
structure Resembles (incoming existing : List (ℕ × ℤ)) (before : List MrpBom) (kit : MrpBom) :
    Prop where
  nonempty : kit.bomLineIds ≠ []
  length : kit.bomLineIds.length = incoming.length
  covered : incoming ⊆ existing ++ (before ++ [kit]).flatMap MrpBom.kitLines
  known : existing ++ (before ++ [kit]).flatMap MrpBom.kitLines ⊆ incoming

theorem sameSet_iff {left right : List (ℕ × ℤ)} :
    sameSet left right ↔ left ⊆ right ∧ right ⊆ left := by
  simp [sameSet, List.subset_def]

section Scan

variable {mrp : Mrp} {incoming existing : List (ℕ × ℤ)} {kits : List MrpBom}

theorem resembles_cons {record kit : MrpBom} {before : List MrpBom} :
    Resembles incoming existing (record :: before) kit ↔
      Resembles incoming (existing ++ record.kitLines) before kit := by
  have same : existing ++ (record :: before ++ [kit]).flatMap MrpBom.kitLines =
      existing ++ record.kitLines ++ (before ++ [kit]).flatMap MrpBom.kitLines := by
    simp
  constructor
  · rintro ⟨nonempty, length, covered, known⟩
    exact ⟨nonempty, length, same ▸ covered, same ▸ known⟩
  · rintro ⟨nonempty, length, covered, known⟩
    exact ⟨nonempty, length, same ▸ covered, same ▸ known⟩

/-- The test of the loop. -/
theorem resembles_nil_iff {record : MrpBom} : Resembles incoming existing [] record ↔
    record.bomLineIds ≠ [] ∧ record.bomLineIds.length = incoming.length ∧
      sameSet incoming (existing ++ record.kitLines) := by
  rw [sameSet_iff]
  constructor
  · rintro ⟨nonempty, length, covered, known⟩
    exact ⟨nonempty, length, by simpa using covered, by simpa using known⟩
  · rintro ⟨nonempty, length, covered, known⟩
    exact ⟨nonempty, length, by simpa using covered, by simpa using known⟩

/-- One iteration. -/
theorem scanKits_cons (mrp : Mrp) (incoming existing : List (ℕ × ℤ)) (kits : List MrpBom)
    (record : MrpBom) :
    (Resembles incoming existing [] record ∧
        scanKits mrp incoming existing (record :: kits) = (some record, [])) ∨
      (¬ Resembles incoming existing [] record ∧
        (scanKits mrp incoming existing (record :: kits)).1 =
          (scanKits mrp incoming (existing ++ record.kitLines) kits).1 ∧
        (scanKits mrp incoming existing (record :: kits)).2 ⊆
          record.id :: (scanKits mrp incoming (existing ++ record.kitLines) kits).2) := by
  rw [resembles_nil_iff]
  by_cases empty : record.bomLineIds = []
  · refine .inr ⟨by simp [empty], ?_⟩
    simp [scanKits, empty, MrpBom.kitLines]
  · by_cases test : record.bomLineIds.length = incoming.length ∧
        sameSet incoming (existing ++ record.kitLines)
    · exact .inl ⟨⟨empty, test⟩, by simp [scanKits, empty, test.1, test.2]⟩
    · refine .inr ⟨fun all => test all.2, ?_⟩
      have failed : (record.bomLineIds.length = incoming.length &&
          sameSet incoming (existing ++ record.kitLines)) = false := by
        simpa using test
      rw [scanKits, if_neg empty, if_neg (by simp [failed])]
      refine ⟨rfl, ?_⟩
      split
      · exact List.Subset.refl _
      · exact List.subset_cons_self _ _

/-- No kit is kept if none is taken for the incoming one; then kits may be archived. -/
theorem scanKits_none (found : (scanKits mrp incoming existing kits).1 = none) :
    ∀ before kit after, kits = before ++ kit :: after →
      ¬ Resembles incoming existing before kit := by
  induction kits generalizing existing with
  | nil =>
      intro before kit after split
      cases before <;> cases split
  | cons record kits induction =>
      obtain ⟨_, ran⟩ | ⟨different, same, _⟩ := scanKits_cons mrp incoming existing kits record
      · rw [ran] at found
        cases found
      · rw [same] at found
        intro before kit after split
        cases before with
        | nil =>
            cases split
            exact different
        | cons head before =>
            cases split
            rw [resembles_cons]
            exact induction found before kit after rfl

/-- The first kit that is taken for the incoming one is kept, and only kits before it are archived.
-/
theorem scanKits_some {kit : MrpBom} (found : (scanKits mrp incoming existing kits).1 = some kit) :
    ∃ before after, kits = before ++ kit :: after ∧ Resembles incoming existing before kit ∧
      (∀ earlier other later, before = earlier ++ other :: later →
        ¬ Resembles incoming existing earlier other) ∧
      (scanKits mrp incoming existing kits).2 ⊆ before.map MrpBom.id := by
  induction kits generalizing existing with
  | nil => cases found
  | cons record kits induction =>
      obtain ⟨own, ran⟩ | ⟨different, same, archived⟩ := scanKits_cons mrp incoming
        existing kits record
      · rw [ran] at found ⊢
        cases found
        refine ⟨[], kits, rfl, own, ?_, List.Subset.refl _⟩
        intro earlier other later split
        cases earlier <;> cases split
      · rw [same] at found
        obtain ⟨before, after, rfl, resembles, first, only⟩ := induction found
        refine ⟨record :: before, after, rfl, resembles_cons.mpr resembles, ?_, ?_⟩
        · intro earlier other later split
          cases earlier with
          | nil =>
              cases split
              exact different
          | cons head earlier =>
              cases split
              rw [resembles_cons]
              exact first earlier other later rfl
        · exact List.Subset.trans archived (List.cons_subset_cons _ only)

end Scan

section Exact

variable {lines : List KitLine}

theorem subset_flatMap_iff {before : List MrpBom} {incoming : List (ℕ × ℤ)} :
    before.flatMap MrpBom.kitLines ⊆ incoming ↔ ∀ own ∈ before, own.kitLines ⊆ incoming := by
  simp only [List.subset_def, List.mem_flatMap]
  constructor
  · exact fun all own listed line among => all ⟨own, listed, among⟩
  · rintro all line ⟨own, listed, among⟩
    exact all own listed among

/-- What makes a kit look like the incoming one. -/
theorem resembles_iff {before : List MrpBom} {kit : MrpBom} (nonempty : lines ≠ []) :
    Resembles (lines.map KitLine.serialize) [] before kit ↔
      kit.bomLineIds.length = lines.length ∧
        (∀ own ∈ before ++ [kit], own.kitLines ⊆ lines.map KitLine.serialize) ∧
          lines.map KitLine.serialize ⊆ (before ++ [kit]).flatMap MrpBom.kitLines := by
  rw [← subset_flatMap_iff]
  constructor
  · rintro ⟨_, length, covered, known⟩
    exact ⟨by simpa using length, known, covered⟩
  · rintro ⟨length, known, covered⟩
    refine ⟨fun empty => nonempty ?_, by simpa using length, covered, known⟩
    rw [empty] at length
    exact List.length_eq_zero_iff.mp length.symm

/-- Without components no kit is kept. -/
theorem scanKits_empty (mrp : Mrp) (kits : List MrpBom) (empty : lines = []) :
    (scanKits mrp (lines.map KitLine.serialize) [] kits).1 = none := by
  cases found : (scanKits mrp (lines.map KitLine.serialize) [] kits).1 with
  | none => rfl
  | some kit =>
      obtain ⟨before, after, _, resembles, _⟩ := scanKits_some found
      have length := resembles.length
      rw [empty] at length
      exact absurd (List.length_eq_zero_iff.mp length) resembles.nonempty

/-- A kit with exactly the lines that comes after kits without other lines is taken for the incoming
one. -/
theorem resembles_of_perm {before : List MrpBom} {kit : MrpBom} (nonempty : lines ≠ [])
    (exact : kit.bomLineIds.Perm lines)
    (inside : ∀ earlier ∈ before, earlier.kitLines ⊆ lines.map KitLine.serialize) :
    Resembles (lines.map KitLine.serialize) [] before kit := by
  have same : kit.kitLines.Perm (lines.map KitLine.serialize) := exact.map KitLine.serialize
  rw [resembles_iff nonempty]
  refine ⟨exact.length_eq, ?_, ?_⟩
  · intro own listed
    obtain among | last := List.mem_append.mp listed
    · exact inside own among
    · rw [List.mem_singleton.mp last]
      exact same.subset
  · intro line listed
    rw [List.flatMap_append]
    exact List.mem_append_right _ (by simpa using same.symm.subset listed)

end Exact

/-! ## The order of the kits -/

instance (mrp : Mrp) : Std.Total mrp.Before where
  total left right := by
    unfold Mrp.Before
    omega

instance (mrp : Mrp) : IsTrans MrpBom mrp.Before where
  trans left middle right := by
    unfold Mrp.Before
    omega

namespace Boms

variable {mrp : Mrp} {company : ℕ} {template : KitTemplate} {boms : Boms} {bom : MrpBom}

theorem mem_getIntegrationKits : bom ∈ boms.getIntegrationKits mrp company template ↔
    bom ∈ boms.records ∧ bom.active = true ∧ bom.type = .phantom ∧
      bom.productTmplId = template.id ∧
        (bom.companyId = some company ∨ bom.companyId = none) := by
  simp [getIntegrationKits, (List.perm_insertionSort _ _).mem_iff, and_assoc]

theorem eq_of_id {other : MrpBom} (listed : bom ∈ boms.records) (among : other ∈ boms.records)
    (same : bom.id = other.id) : bom = other :=
  List.inj_on_of_nodup_map boms.distinct listed among same

theorem nodup_getIntegrationKits (boms : Boms) (mrp : Mrp) (company : ℕ)
    (template : KitTemplate) :
    ((boms.getIntegrationKits mrp company template).map MrpBom.id).Nodup := by
  rw [getIntegrationKits, ((List.perm_insertionSort _ _).map _).nodup_iff]
  exact (List.filter_sublist.map _).nodup boms.distinct

/-- The kit with the least sequence comes first. -/
theorem head?_getIntegrationKits (own : bom ∈ boms.getIntegrationKits mrp company template)
    (least : ∀ other ∈ boms.getIntegrationKits mrp company template, other.id ≠ bom.id →
      bom.sequence < other.sequence) :
    (boms.getIntegrationKits mrp company template).head? = some bom := by
  have sorted := List.pairwise_insertionSort mrp.Before
    (boms.records.filter fun bom => bom.active && bom.type = .phantom &&
      bom.productTmplId = template.id && (bom.companyId = some company || bom.companyId = none))
  rw [← getIntegrationKits] at sorted
  cases kits : boms.getIntegrationKits mrp company template with
  | nil =>
      rw [kits] at own
      cases own
  | cons head rest =>
      rw [kits] at sorted
      by_contra different
      have ne : head ≠ bom := by simpa using different
      have first : head ∈ boms.getIntegrationKits mrp company template := by simp [kits]
      have behind : bom ∈ rest := by
        rw [kits] at own
        exact (List.mem_cons.mp own).resolve_left ne.symm
      have before := (List.pairwise_cons.mp sorted).1 bom behind
      have less := least head first fun same => ne (eq_of_id
        (mem_getIntegrationKits.mp first).1 (mem_getIntegrationKits.mp own).1 same)
      unfold Mrp.Before at before
      omega

@[simp] theorem map_id_update (change : MrpBom → MrpBom) (keeps : ∀ bom, (change bom).id = bom.id) :
    (boms.update change keeps).records.map MrpBom.id = boms.records.map MrpBom.id := by
  rw [update, List.map_map]
  exact List.map_congr_left fun bom _ => keeps bom

/-- A kit with sequence zero comes first when all other kits are numbered. -/
theorem head?_resequence {ids : List ℕ} (own : bom ∈ boms.getIntegrationKits mrp company template)
    (zero : bom.sequence = 0) (outside : bom.id ∉ ids)
    (others : ∀ other ∈ boms.getIntegrationKits mrp company template, other.id ≠ bom.id →
      other.id ∈ ids) :
    ((boms.resequence ids).getIntegrationKits mrp company template).head? = some bom := by
  refine head?_getIntegrationKits ?_ ?_
  · obtain ⟨listed, rest⟩ := mem_getIntegrationKits.mp own
    refine mem_getIntegrationKits.mpr ⟨?_, rest⟩
    exact List.mem_map.mpr ⟨bom, listed, if_neg outside⟩
  · intro other among different
    obtain ⟨changed, active, rest⟩ := mem_getIntegrationKits.mp among
    obtain ⟨before, listed, rfl⟩ := List.mem_map.mp changed
    by_cases numbered : before.id ∈ ids
    · simp only [zero, if_pos numbered]
      omega
    · simp only [if_neg numbered] at active rest different
      have kit : before ∈ boms.getIntegrationKits mrp company template :=
        mem_getIntegrationKits.mpr ⟨listed, active, rest⟩
      exact absurd (others before kit different) numbered

/-- Archiving leaves fewer kits. -/
theorem mem_archive (ids : List ℕ) :
    bom ∈ (boms.archive ids).getIntegrationKits mrp company template ↔
      bom ∈ boms.getIntegrationKits mrp company template ∧ bom.id ∉ ids := by
  simp only [mem_getIntegrationKits]
  constructor
  · rintro ⟨changed, active, rest⟩
    obtain ⟨before, listed, rfl⟩ := List.mem_map.mp changed
    by_cases gone : before.id ∈ ids
    · simp only [if_pos gone] at active
      cases active
    · simp only [if_neg gone] at active rest ⊢
      exact ⟨⟨listed, active, rest⟩, gone⟩
  · rintro ⟨⟨listed, rest⟩, kept⟩
    exact ⟨List.mem_map.mpr ⟨bom, listed, if_neg kept⟩, rest⟩

/-- The kit that is kept gets sequence zero; the other kits are the same. -/
theorem mem_setSequence (sequence : ℤ) {kit : MrpBom}
    (own : kit ∈ boms.getIntegrationKits mrp company template) :
    { kit with sequence } ∈
        (boms.setSequence kit.id sequence).getIntegrationKits mrp company template ∧
      ∀ other ∈ (boms.setSequence kit.id sequence).getIntegrationKits mrp company template,
        other.id ≠ kit.id → other ∈ boms.getIntegrationKits mrp company template := by
  simp only [mem_getIntegrationKits] at own ⊢
  constructor
  · exact ⟨List.mem_map.mpr ⟨kit, own.1, if_pos rfl⟩, own.2⟩
  · rintro other ⟨changed, rest⟩ different
    obtain ⟨before, listed, rfl⟩ := List.mem_map.mp changed
    by_cases same : before.id = kit.id
    · simp only [if_pos same] at different
      exact absurd same different
    · simp only [if_neg same] at rest ⊢
      exact ⟨listed, rest⟩

theorem nextId_fresh (boms : Boms) : boms.nextId ∉ boms.records.map MrpBom.id := fun listed =>
  absurd (List.le_max_of_le' 0 listed le_rfl) (Nat.not_succ_le_self _)

end Boms

/-! ## The import -/

section Import

variable {mrp : Mrp} {lookup : ProductLookup} {company : ℕ} {template : KitTemplate} {boms : Boms}
  {components : List KitComponent} {variants : List ℕ}

theorem serialize_componentLines (variants : List ℕ) (components : List KitComponent) :
    (componentLines variants components).map KitLine.serialize =
      variants.zipWith (fun variant component => (variant, pyInt component.quantity))
        components := by
  rw [componentLines, List.map_zipWith]
  rfl

theorem pyInt_natCast (n : ℕ) : pyInt n = n := by
  simp [pyInt]

/-- Whole quantities are not changed. -/
theorem ofSerialized_componentLines
    (whole : ∀ component ∈ components, ∃ n : ℕ, 0 < n ∧ component.quantity = n) :
    ((componentLines variants components).map KitLine.serialize).map
        (fun line => (⟨line.1, line.2⟩ : KitLine)) = componentLines variants components := by
  induction components generalizing variants with
  | nil => simp [componentLines]
  | cons component components induction =>
      cases variants with
      | nil => rfl
      | cons variant variants =>
          obtain ⟨⟨n, _, quantity⟩, whole⟩ := List.forall_mem_cons.mp whole
          have rest := @induction variants whole
          simp only [componentLines, List.zipWith_cons_cons, List.map_cons,
            List.cons.injEq] at rest ⊢
          exact ⟨by simp [KitLine.serialize, quantity, pyInt_natCast], rest⟩

variable (resolved : components.mapM lookup.tryGetOdooProduct = .ok variants)

include resolved

/-- A kit that is kept comes first, and no other one is created. -/
theorem createBoms_kept {kit : MrpBom}
    (found : (scanKits mrp ((componentLines variants components).map KitLine.serialize) []
      (boms.getIntegrationKits mrp company template)).1 = some kit) :
    ∃ after, createBoms mrp lookup company template boms components = .ok (kit.id, after) ∧
      after.records.map MrpBom.id = boms.records.map MrpBom.id ∧
      (after.getIntegrationKits mrp company template).head? = some { kit with sequence := 0 } := by
  obtain ⟨before, rest, split, _, _, only⟩ := scanKits_some found
  set archived := (scanKits mrp ((componentLines variants components).map KitLine.serialize) []
    (boms.getIntegrationKits mrp company template)).2 with archived_eq
  have own : kit ∈ boms.getIntegrationKits mrp company template := by simp [split]
  have nodup := boms.nodup_getIntegrationKits mrp company template
  have kept : kit.id ∉ archived := by
    intro dropped
    rw [split, List.map_append, List.map_cons, List.nodup_append'] at nodup
    exact nodup.2.2 (only dropped) List.mem_cons_self
  have stays := (Boms.mem_archive archived).mpr ⟨own, kept⟩
  obtain ⟨first, others⟩ := Boms.mem_setSequence 0 stays
  refine ⟨((boms.archive archived).setSequence kit.id 0).resequence
    (((boms.getIntegrationKits mrp company template).map MrpBom.id).filter fun id => id ≠ kit.id),
    ?_, ?_, Boms.head?_resequence first rfl ?_ ?_⟩
  · rw [createBoms, bind_eq_ok_iff]
    refine ⟨variants, resolved, ?_⟩
    simp only [← serialize_componentLines, found]
    rfl
  · simp [Boms.resequence, Boms.setSequence, Boms.archive]
  · simp
  · intro other among different
    have listed := ((Boms.mem_archive archived).mp (others other among different)).1
    simpa using ⟨⟨other, listed, rfl⟩, different⟩

/-- Without a kit to keep, a new one is created if it is accepted. -/
theorem createBoms_created
    (whole : ∀ component ∈ components, ∃ n : ℕ, 0 < n ∧ component.quantity = n)
    (found : (scanKits mrp ((componentLines variants components).map KitLine.serialize) []
      (boms.getIntegrationKits mrp company template)).1 = none) :
    (mrp.accepts template.id (componentLines variants components) = false ∧
        createBoms mrp lookup company template boms components = .error .bomRefused) ∨
      mrp.accepts template.id (componentLines variants components) = true ∧
        ∃ after record, createBoms mrp lookup company template boms components =
            .ok (record.id, after) ∧
          after.records.map MrpBom.id = boms.records.map MrpBom.id ++ [record.id] ∧
          record ∈ after.records ∧ record.bomLineIds = componentLines variants components ∧
          record.companyId = template.companyId ∧
          (template.companyId = some company ∨ template.companyId = none →
            (after.getIntegrationKits mrp company template).head? = some record) := by
  set archived := boms.archive (scanKits mrp
    ((componentLines variants components).map KitLine.serialize) []
    (boms.getIntegrationKits mrp company template)).2 with archived_eq
  set kits := (boms.getIntegrationKits mrp company template).map MrpBom.id with kits_eq
  have unfolded : createBoms mrp lookup company template boms components =
      if mrp.accepts template.id (componentLines variants components) then
        .ok (archived.nextId, (archived.create
          (template.newKit (componentLines variants components))).resequence kits)
      else .error .bomRefused := by
    simp only [createBoms, resolved, bind, Except.bind, ← serialize_componentLines, found,
      ofSerialized_componentLines whole, pure, Except.pure]
    rfl
  cases accepted : mrp.accepts template.id (componentLines variants components) with
  | false => exact .inl ⟨rfl, by simp [unfolded, accepted]⟩
  | true =>
      refine .inr ⟨rfl, ?_⟩
      set record : MrpBom :=
        { template.newKit (componentLines variants components) with id := archived.nextId }
      have ids : archived.records.map MrpBom.id = boms.records.map MrpBom.id :=
        Boms.map_id_update _ _
      have fresh : record.id ∉ kits := by
        intro listed
        obtain ⟨kit, own, same⟩ := List.mem_map.mp listed
        have equal : kit.id = archived.nextId := same
        refine archived.nextId_fresh ?_
        rw [ids, ← equal]
        exact List.mem_map_of_mem (Boms.mem_getIntegrationKits.mp own).1
      have present : record ∈ (archived.create
          (template.newKit (componentLines variants components))).records :=
        List.mem_append_right _ (List.mem_singleton_self record)
      have kept : record ∈ ((archived.create
          (template.newKit (componentLines variants components))).resequence kits).records :=
        List.mem_map.mpr ⟨record, present, if_neg fresh⟩
      refine ⟨_, record, by rw [unfolded, accepted]; rfl, ?_, kept, rfl, rfl, ?_⟩
      · rw [Boms.resequence, Boms.map_id_update, Boms.create, List.map_append, ids]
        rfl
      · intro visible
        refine Boms.head?_resequence (Boms.mem_getIntegrationKits.mpr
          ⟨present, rfl, rfl, rfl, visible⟩) rfl fresh ?_
        intro other among different
        obtain ⟨listed, rest⟩ := Boms.mem_getIntegrationKits.mp among
        obtain before | last := List.mem_append.mp listed
        · have kit : other ∈ archived.getIntegrationKits mrp company template :=
            Boms.mem_getIntegrationKits.mpr ⟨before, rest⟩
          exact List.mem_map_of_mem ((Boms.mem_archive _).mp kit).1
        · exact absurd (congrArg MrpBom.id (List.mem_singleton.mp last)) different

/-- An import that finds a kit with exactly the lines at the first place creates nothing. -/
theorem createBoms_again {own : MrpBom}
    (first : (boms.getIntegrationKits mrp company template).head? = some own)
    (exact : own.bomLineIds.Perm (componentLines variants components))
    (nonempty : componentLines variants components ≠ []) :
    ∃ after, createBoms mrp lookup company template boms components = .ok (own.id, after) ∧
      after.records.map MrpBom.id = boms.records.map MrpBom.id := by
  have resembles : Resembles ((componentLines variants components).map KitLine.serialize) [] []
      own := resembles_of_perm nonempty exact (by simp)
  have found : (scanKits mrp ((componentLines variants components).map KitLine.serialize) []
      (boms.getIntegrationKits mrp company template)).1 = some own := by
    cases kits : boms.getIntegrationKits mrp company template with
    | nil =>
        rw [kits] at first
        cases first
    | cons head rest =>
        rw [kits] at first
        obtain rfl := Option.some.inj first
        obtain ⟨_, ran⟩ | ⟨different, _⟩ := scanKits_cons mrp
          ((componentLines variants components).map KitLine.serialize) [] rest head
        · rw [ran]
        · exact absurd resembles different
  obtain ⟨after, ran, ids, _⟩ := createBoms_kept resolved found
  exact ⟨after, ran, ids⟩

end Import

section Found

variable {mrp : Mrp} {company : ℕ} {template : KitTemplate} {kits : List MrpBom}
  {lines : List KitLine}

/-- Under the condition the kit that is kept has exactly the lines, and one with exactly the lines
is not overlooked. -/
theorem KitsClear.found (clear : KitsClear mrp company template kits lines) :
    (∃ kit ∈ kits, kit.bomLineIds.Perm lines ∧
        (scanKits mrp (lines.map KitLine.serialize) [] kits).1 = some kit) ∨
      (∀ kit ∈ kits, ¬ kit.bomLineIds.Perm lines) ∧
        (scanKits mrp (lines.map KitLine.serialize) [] kits).1 = none := by
  cases found : (scanKits mrp (lines.map KitLine.serialize) [] kits).1 with
  | none =>
      refine .inr ⟨?_, rfl⟩
      by_contra some
      push Not at some
      obtain ⟨before, kit, after, split, exact, none⟩ := exists_first some
      have inside := clear.noOtherLine before kit after split exact none
      exact scanKits_none found before kit after split
        (resembles_of_perm clear.nonempty exact inside)
  | some kit =>
      obtain ⟨before, after, split, resembles, first, _⟩ := scanKits_some found
      refine .inl ⟨kit, by simp [split], ?_, rfl⟩
      have none : ∀ earlier ∈ before, ¬ earlier.bomLineIds.Perm lines := by
        by_contra some
        push Not at some
        obtain ⟨front, earlier, back, divided, exact, others⟩ := exists_first some
        have inside := clear.noOtherLine front earlier (back ++ kit :: after)
          (by simp [split, divided])
          exact others
        exact first front earlier back divided (resembles_of_perm clear.nonempty exact inside)
      obtain ⟨length, known, covered⟩ := (resembles_iff clear.nonempty).mp resembles
      exact clear.noLookalike before kit after split none length known covered

/-- Conversely, the condition holds if a kit that is kept has exactly the lines, and none is
overlooked before a new one is created. -/
theorem kitsClear_of_found (nonempty : lines ≠ [])
    (exact : ∀ kit, (scanKits mrp (lines.map KitLine.serialize) [] kits).1 = some kit →
      kit.bomLineIds.Perm lines)
    (overlooked : (scanKits mrp (lines.map KitLine.serialize) [] kits).1 = none →
      ∀ kit ∈ kits, ¬ kit.bomLineIds.Perm lines)
    (created : (scanKits mrp (lines.map KitLine.serialize) [] kits).1 = none →
      mrp.accepts template.id lines ∧
        (template.companyId = some company ∨ template.companyId = none)) :
    KitsClear mrp company template kits lines := by
  cases found : (scanKits mrp (lines.map KitLine.serialize) [] kits).1 with
  | none =>
      refine ⟨nonempty, ?_, ?_, fun _ => created found⟩
      · intro before kit after split _ length known covered
        exact absurd ((resembles_iff nonempty).mpr ⟨length, known, covered⟩)
          (scanKits_none found before kit after split)
      · intro before kit after split own
        exact absurd own (overlooked found kit (by simp [split]))
  | some kept =>
      obtain ⟨front, back, split, resembles, first, _⟩ := scanKits_some found
      have own := exact kept found
      refine ⟨nonempty, ?_, ?_, fun none => absurd own (none kept (by simp [split]))⟩
      · intro before kit after divided none length known covered
        obtain ⟨_, rfl, _⟩ | ⟨middle, rfl⟩ | ⟨middle, rfl⟩ :=
          append_cons_cases (split.symm.trans divided)
        · exact own
        · exact absurd own (none kept (by simp))
        · exact absurd ((resembles_iff nonempty).mpr ⟨length, known, covered⟩)
            (first before kit middle rfl)
      · intro before kit after divided _ none earlier among
        obtain ⟨_, known, _⟩ := (resembles_iff nonempty).mp resembles
        obtain ⟨rfl, _, _⟩ | ⟨middle, rfl⟩ | ⟨middle, rfl⟩ :=
          append_cons_cases (split.symm.trans divided)
        · exact known earlier (List.mem_append_left _ among)
        · exact absurd own (none kept (by simp))
        · exact known earlier (by simp [among])

end Found

/-- An import of a kit is exact and can be repeated, exactly if no existing kit is mistaken for the
incoming one or hides one with exactly its lines, and a new kit can be created if there is none. -/
theorem kit_import_exact_iff (mrp : Mrp) (lookup : ProductLookup) (company : ℕ)
    (template : KitTemplate) (boms : Boms) (components : List KitComponent) (variants : List ℕ)
    (resolved : components.mapM lookup.tryGetOdooProduct = .ok variants)
    (whole : ∀ component ∈ components, ∃ n : ℕ, 0 < n ∧ component.quantity = n) :
    (∃ kit after, createBoms mrp lookup company template boms components = .ok (kit, after) ∧
        KitImported mrp company template boms after kit (componentLines variants components) ∧
        ∃ again result, createBoms mrp lookup company template after components =
            .ok (again, result) ∧
          result.records.map MrpBom.id = after.records.map MrpBom.id) ↔
      KitsClear mrp company template (boms.getIntegrationKits mrp company template)
        (componentLines variants components) := by
  constructor
  · rintro ⟨kit, after, ran, imported, again, result, repeated, unchanged⟩
    refine kitsClear_of_found ?_ ?_ ?_ ?_
    · intro empty
      have created := createBoms_created resolved whole
        (scanKits_empty mrp (after.getIntegrationKits mrp company template) empty)
      obtain ⟨_, refused⟩ | ⟨_, _, record, done, ids, _⟩ := created
      · rw [refused] at repeated
        cases repeated
      · cases done.symm.trans repeated
        rw [ids] at unchanged
        simpa using congrArg List.length unchanged
    · intro kept found
      obtain ⟨_, done, _, first⟩ := createBoms_kept resolved found
      cases done.symm.trans ran
      obtain ⟨record, listed, same, exact⟩ := imported.exact
      have present := (Boms.mem_getIntegrationKits.mp (List.mem_of_head? first)).1
      rwa [Boms.eq_of_id listed present same] at exact
    · intro found kit' own exact
      obtain ⟨_, refused⟩ | ⟨_, _, record, done, ids, _⟩ := createBoms_created resolved whole found
      · rw [refused] at ran
        cases ran
      · cases done.symm.trans ran
        have same := (imported.kept ⟨kit', own, exact⟩).2
        rw [ids] at same
        simpa using congrArg List.length same
    · intro found
      obtain ⟨_, refused⟩ | ⟨accepted, _, record, done, _, present, _, company, _⟩ :=
        createBoms_created resolved whole found
      · rw [refused] at ran
        cases ran
      · cases done.symm.trans ran
        obtain ⟨head, first, same⟩ := Option.map_eq_some_iff.mp imported.first
        obtain ⟨listed, _, _, _, visible⟩ :=
          Boms.mem_getIntegrationKits.mp (List.mem_of_head? first)
        rw [Boms.eq_of_id listed present same, company] at visible
        exact ⟨accepted, visible⟩
  · intro clear
    obtain ⟨kit, own, exact, found⟩ | ⟨none, found⟩ := clear.found
    · obtain ⟨after, ran, ids, first⟩ := createBoms_kept resolved found
      have present : { kit with sequence := 0 } ∈ after.getIntegrationKits mrp company template :=
        List.mem_of_head? first
      obtain ⟨result, repeated, unchanged⟩ := createBoms_again resolved first exact clear.nonempty
      refine ⟨kit.id, after, ran, ⟨?_, by simp [first], ?_⟩, _, result, repeated, unchanged⟩
      · exact ⟨_, (Boms.mem_getIntegrationKits.mp present).1, rfl, exact⟩
      · exact fun _ => ⟨⟨kit, own, exact, rfl⟩, ids⟩
    · obtain ⟨accepted, visible⟩ := clear.created none
      obtain ⟨refused, _⟩ | ⟨_, after, record, ran, ids, present, lines, _, first⟩ :=
        createBoms_created resolved whole found
      · rw [accepted] at refused
        cases refused
      · have exact : record.bomLineIds.Perm (componentLines variants components) := .of_eq lines
        obtain ⟨result, repeated, unchanged⟩ :=
          createBoms_again resolved (first visible) exact clear.nonempty
        refine ⟨record.id, after, ran, ⟨⟨record, present, rfl, exact⟩, by simp [first visible], ?_⟩,
          _, result, repeated, unchanged⟩
        rintro ⟨kit, own, same⟩
        exact absurd same (none kit own)

/-! ## A box of two mugs -/

def giftBox : KitTemplate := ⟨10, none⟩

def giftKit (id : ℕ) (sequence : ℤ) (mugs : ℚ) : MrpBom where
  id := id
  active := true
  type := .phantom
  productTmplId := 10
  productId := none
  companyId := none
  sequence := sequence
  bomLineIds := [⟨7, mugs⟩]

def plainMrp : Mrp := ⟨fun _ => 0, fun _ => true, fun _ _ => true⟩

def mugLookup : ProductLookup := ⟨fun code => if code = "30-1" then some 7 else none, fun _ => none⟩

def twoMugs : List KitComponent := [⟨some "30-1", none, 2⟩]

theorem twoMugs_whole : ∀ component ∈ twoMugs, ∃ n : ℕ, 0 < n ∧ component.quantity = n := by
  intro component listed
  rw [List.mem_singleton.mp listed]
  exact ⟨2, by decide, rfl⟩

/-- The only kit of the box has two mugs already. -/
theorem two_mugs_kept :
    ∃ kit after, createBoms plainMrp mugLookup 1 giftBox ⟨[giftKit 1 0 2], by decide⟩ twoMugs =
        .ok (kit, after) ∧
      KitImported plainMrp 1 giftBox ⟨[giftKit 1 0 2], by decide⟩ after kit
          (componentLines [7] twoMugs) ∧
        ∃ again result, createBoms plainMrp mugLookup 1 giftBox after twoMugs =
            .ok (again, result) ∧
          result.records.map MrpBom.id = after.records.map MrpBom.id := by
  refine (kit_import_exact_iff plainMrp mugLookup 1 giftBox _ twoMugs [7] rfl twoMugs_whole).mpr ?_
  have kits : Boms.getIntegrationKits ⟨[giftKit 1 0 2], by decide⟩ plainMrp 1 giftBox =
      [giftKit 1 0 2] := by decide
  rw [kits]
  have only : ∀ before kit after, [giftKit 1 0 2] = before ++ kit :: after →
      before = [] ∧ kit = giftKit 1 0 2 := by
    intro before kit after split
    cases before with
    | nil => exact ⟨rfl, (List.cons.inj split).1.symm⟩
    | cons head before =>
        have empty := (List.cons.inj split).2
        simp at empty
  have exact : (giftKit 1 0 2).bomLineIds.Perm (componentLines [7] twoMugs) := .refl _
  refine ⟨by decide, ?_, ?_, ?_⟩
  · intro before kit after split _ _ _ _
    rw [(only before kit after split).2]
    exact exact
  · intro before kit after split _ _ earlier among
    rw [(only before kit after split).1] at among
    cases among
  · exact fun none => absurd exact (none _ (List.mem_singleton_self _))

/-- The kit with two mugs comes after one with a single mug, whose line is compared with it: both
are archived, and a third one is created. -/
theorem two_mugs_created_again :
    (∃ kit ∈ Boms.getIntegrationKits ⟨[giftKit 1 0 1, giftKit 2 1 2], by decide⟩ plainMrp 1 giftBox,
        kit.bomLineIds.Perm (componentLines [7] twoMugs)) ∧
      ∃ kit after, createBoms plainMrp mugLookup 1 giftBox
          ⟨[giftKit 1 0 1, giftKit 2 1 2], by decide⟩ twoMugs = .ok (kit, after) ∧
        ¬ KitImported plainMrp 1 giftBox ⟨[giftKit 1 0 1, giftKit 2 1 2], by decide⟩ after kit
          (componentLines [7] twoMugs) := by
  have exact : ∃ kit ∈ Boms.getIntegrationKits ⟨[giftKit 1 0 1, giftKit 2 1 2], by decide⟩ plainMrp
      1 giftBox, kit.bomLineIds.Perm (componentLines [7] twoMugs) :=
    ⟨giftKit 2 1 2, by decide, .refl _⟩
  refine ⟨exact, ?_⟩
  have found : (scanKits plainMrp ((componentLines [7] twoMugs).map KitLine.serialize) []
      (Boms.getIntegrationKits ⟨[giftKit 1 0 1, giftKit 2 1 2], by decide⟩ plainMrp 1 giftBox)).1 =
        none := by decide +kernel
  obtain ⟨refused, _⟩ | ⟨_, after, record, ran, ids, _⟩ :=
    @createBoms_created plainMrp mugLookup 1 giftBox _ twoMugs [7] rfl twoMugs_whole found
  · cases refused
  · refine ⟨record.id, after, ran, ?_⟩
    intro imported
    have same := (imported.kept exact).2
    rw [ids] at same
    simpa using congrArg List.length same

end OdooConnector.Catalog
