import Mathlib.Data.List.Infix
import OdooConnector.Library.Grouping
import OdooConnector.Library.NestedDict
import OdooConnector.Translation.GidKey

/-!
# Fetched translations

One query asks for the translations of a product in every mapped language, and what is parsed for
each language is merged. The result is complete unless an alias of the query is no name or a
metafield lies beyond the limits of the queries.
-/

namespace OdooConnector
namespace Translation

/-! ## What is pulled -/

structure TranslatableContent (α : Type) where
  key : String
  value : α
  locale : String

structure Translated (α : Type) where
  key : String
  value : α
  locale : String

/-- A resource without the resources that are nested in it. -/
structure ResourceNode (α : Type) where
  resourceId : String
  translatableContent : List (TranslatableContent α)
  translations : List (Translated α)

structure TranslatableResource (α : Type) extends ResourceNode α where
  nestedTranslatableResources : List (ResourceNode α)

structure Metafield where
  gid : Gid
  «namespace» : String
  key : String

def Metafield.odooKey (metafield : Metafield) : String :=
  (String.singleton '.').intercalate ["metafields", metafield.namespace, metafield.key]

/-- A resource that a query asks for: its alias, its id, the language of its translations and that
of the resources nested in it. -/
structure PullTarget where
  name : String
  gid : String
  locale : String
  nestedLocale : String
deriving DecidableEq

/-- `nestedTranslatableResources(first: 20)` -/
def nestedLimit : ℕ := 20

/-- `metafields(first: 50)` -/
def metafieldLimit : ℕ := 50

def addTargetToPull (gid locale : String) : PullTarget :=
  ⟨formatGidKey gid (some locale), gid, locale, locale⟩

section

variable {α : Type}

def hasNestedMetafields (resource : TranslatableResource α) : Bool :=
  resource.nestedTranslatableResources.any fun nested =>
    "/Metafield/".toList <:+: nested.resourceId.toList

/-- The value in the first language, then the translation over it, under one key or their own. -/
def parseNode (key : String → String) (result : Dict String (Dict String α))
    (node : ResourceNode α) : Dict String (Dict String α) :=
  let result := Dict.updateAll (fun content => key content.key)
    (fun content _ => .single content.locale content.value) result node.translatableContent
  Dict.updateAll (fun translation => key translation.key)
    (fun translation _ => .single translation.locale translation.value) result node.translations

/-- A nested resource, under the key of its metafield. -/
def parseNested (metafieldsData : Dict String Metafield) (result : Dict String (Dict String α))
    (nested : ResourceNode α) : Dict String (Dict String α) :=
  match metafieldsData.get? nested.resourceId with
  | none => result
  | some metafield => parseNode (fun _ => metafield.odooKey) result nested

def parseTranslations (metafieldsData : Dict String Metafield)
    (resource : TranslatableResource α) : Dict String (Dict String α) :=
  let result := parseNode (fun key => key) ∅ resource.toResourceNode
  if metafieldsData.entries.isEmpty then result
  else resource.nestedTranslatableResources.foldl (parseNested metafieldsData) result

/-- The store: the `data` of a response, by alias, and the first metafields of a product. -/
structure Client (α : Type) where
  execute : List PullTarget → Except String (Dict String (Option (TranslatableResource α)))
  getMetafields : String → ℕ → Except String (List Metafield)

def pull (client : Client α) (payloadPull : List PullTarget) :
    Except String (List (TranslatableResource α)) :=
  if payloadPull = [] then .ok []
  else (client.execute payloadPull).map fun data => data.values.filterMap id

/-- The translations of a product in the mapped languages, whose targets are a set. -/
def fetchTranslations (client : Client α) (gid : String) (payloadPull : List PullTarget) :
    Except String (Dict String (Dict String α)) := do
  let resources ← pull client payloadPull
  let metafields ← if resources.any hasNestedMetafields then
      (client.getMetafields gid metafieldLimit).map fun metafields =>
        Dict.updateAll (fun metafield => metafield.gid.text) (fun metafield _ => metafield) ∅
          metafields
    else .ok ∅
  return Dict.mergeAll (resources.map (parseTranslations metafields))

end

/-! ## The product in the store -/

/-- A product with its texts in the first language of the store and their translations, which are
given by the id of the resource, the key and the language. -/
structure StoreProduct (α : Type) where
  gid : Gid
  primary : Locale
  content : List (String × α)
  nested : List (Gid × List (String × α))
  metafields : List Metafield
  translation : String → String → String → Option α
  contentKeys : (content.map Prod.fst).Nodup
  ownKeys : ∀ text ∈ content, ¬ "metafields.".toList <+: text.1.toList
  nestedIds : (nested.map fun resource => resource.1.text).Nodup
  metafieldIds : (metafields.map fun metafield => metafield.gid.text).Nodup
  metafieldTypes : ∀ metafield ∈ metafields, metafield.gid.type = "Metafield"
  metafieldKeys : (metafields.map Metafield.odooKey).Nodup
  /-- A metafield has one text, its value. -/
  metafieldTexts : ∀ resource ∈ nested, ∀ metafield ∈ metafields,
    metafield.gid.text = resource.1.text → resource.2.length ≤ 1
  primaryUntranslated : ∀ id key, translation id key primary.code = none

namespace StoreProduct

variable {α : Type} (product : StoreProduct α)

/-- What the store tells of a resource for one language, in any order. -/
structure Describes (id : String) (texts : List (String × α)) (locale : String)
    (node : ResourceNode α) : Prop where
  resourceId : node.resourceId = id
  content : ∀ text, text ∈ node.translatableContent ↔
    (text.key, text.value) ∈ texts ∧ text.locale = product.primary.code
  translations : ∀ text, text ∈ node.translations ↔
    text.key ∈ texts.map Prod.fst ∧
      product.translation id text.key locale = some text.value ∧ text.locale = locale

/-- What the store answers for an alias. -/
structure Answers (target : PullTarget) (resource : TranslatableResource α) : Prop where
  own : product.Describes product.gid.text product.content target.locale resource.toResourceNode
  nested : List.Forall₂ (fun expected node =>
      product.Describes expected.1.text expected.2 target.nestedLocale node)
    (product.nested.take nestedLimit) resource.nestedTranslatableResources

/-- The store that has the product: a query whose aliases are no names is refused, any other one is
answered for each alias, and a list is cut at the limit. -/
structure Server extends Client α where
  answers : ∀ targets : List PullTarget,
    (∀ target ∈ targets, target.gid = product.gid.text ∧ IsName target.name) →
    (targets.map PullTarget.name).Nodup →
    ∃ data, execute targets = .ok data ∧
      (∀ target ∈ targets, ∃ resource,
        data.get? target.name = some (some resource) ∧ product.Answers target resource) ∧
      ∀ name answer, data.get? name = some answer → ∃ target ∈ targets, target.name = name
  refuses : ∀ targets : List PullTarget, (∃ target ∈ targets, ¬ IsName target.name) →
    ∃ message, execute targets = .error message
  limits : ∀ limit, getMetafields product.gid.text limit = .ok (product.metafields.take limit)

/-- A text that can be translated: its key in the result, the id of its resource, its key there and
its value in the first language. -/
def Translatable (name id key : String) (value : α) : Prop :=
  (name = key ∧ id = product.gid.text ∧ (key, value) ∈ product.content) ∨
    ∃ resource ∈ product.nested, ∃ metafield ∈ product.metafields,
      metafield.gid.text = resource.1.text ∧ name = metafield.odooKey ∧ id = resource.1.text ∧
        (key, value) ∈ resource.2

/-- Every text has its value in the first language and its translations into the pulled ones. -/
def Complete (pulled : List Locale) (result : Except String (Dict String (Dict String α))) : Prop :=
  ∃ dict, result = .ok dict ∧
    (∀ name id key value, product.Translatable name id key value →
      ∃ texts, dict.get? name = some texts ∧ ∀ locale, texts.get? locale =
        if locale = product.primary.code then some value
        else if locale ∈ pulled.map Locale.code then product.translation id key locale
        else none) ∧
    ∀ name, (∀ id key value, ¬ product.Translatable name id key value) → dict.get? name = none

/-- The metafields with texts are within the limits of the queries. -/
def WithinLimits : Prop :=
  ∀ resource ∈ product.nested, ∀ metafield ∈ product.metafields,
    metafield.gid.text = resource.1.text → resource.2 ≠ [] →
      resource ∈ product.nested.take nestedLimit ∧
        metafield ∈ product.metafields.take metafieldLimit

/-! ## What is parsed for one language -/

/-- The one text that is parsed for a key. -/
def parsed (locale id key : String) (value : α) : Dict String α :=
  match product.translation id key locale with
  | some translated => .single locale translated
  | none => .single product.primary.code value

variable {id locale name : String} {texts : List (String × α)} {node : ResourceNode α}

theorem get?_parseNode_of_other (described : product.Describes id texts locale node)
    {key : String → String} (other : ∀ text ∈ texts, key text.1 ≠ name)
    (result : Dict String (Dict String α)) :
    (parseNode key result node).get? name = result.get? name := by
  rw [parseNode, Dict.get?_updateAll_of_none, Dict.get?_updateAll_of_none]
  · intro text member
    exact other _ ((described.content text).mp member).1
  · intro text member
    obtain ⟨content, listed, same⟩ :=
      List.mem_map.mp ((described.translations text).mp member).1
    rw [← same]
    exact other content listed

theorem get?_parseNode (described : product.Describes id texts locale node)
    {key : String → String} {text : String × α} (member : text ∈ texts)
    (named : key text.1 = name) (unique : ∀ other ∈ texts, key other.1 = name → other = text)
    (result : Dict String (Dict String α)) :
    (parseNode key result node).get? name = some (product.parsed locale id text.1 text.2) := by
  rw [parseNode, parsed]
  have translated (translation : Translated α) (listed : translation ∈ node.translations)
      (same : key translation.key = name) :
      product.translation id text.1 locale = some translation.value ∧
        translation.locale = locale := by
    obtain ⟨keyed, value, language⟩ := (described.translations translation).mp listed
    obtain ⟨content, contentListed, equal⟩ := List.mem_map.mp keyed
    rw [← equal] at same value
    rw [unique content contentListed same] at value
    exact ⟨value, language⟩
  cases value : product.translation id text.1 locale with
  | some translation =>
      apply Dict.get?_updateAll_of_agree
      · refine ⟨⟨text.1, translation, locale⟩, ?_, named⟩
        exact (described.translations _).mpr ⟨List.mem_map_of_mem member, value, rfl⟩
      · intro other listed same
        obtain ⟨found, language⟩ := translated other listed same
        rw [value] at found
        rw [language, Option.some.inj found]
  | none =>
      rw [Dict.get?_updateAll_of_none]
      · apply Dict.get?_updateAll_of_agree
        · refine ⟨⟨text.1, text.2, product.primary.code⟩, ?_, named⟩
          exact (described.content _).mpr ⟨member, rfl⟩
        · intro other listed same
          obtain ⟨content, language⟩ := (described.content other).mp listed
          have equal := unique _ content same
          rw [language, ← congrArg Prod.snd equal]
      · intro translation listed same
        have found := (translated translation listed same).1
        rw [value] at found
        cases found

section

variable {resources : List (Gid × List (String × α))} {nodes : List (ResourceNode α)}
  {metafieldsData : Dict String Metafield}

/-- Nested resources that have no text under a key leave it alone. -/
theorem get?_foldl_of_other
    (described : List.Forall₂ (fun expected node =>
      product.Describes expected.1.text expected.2 locale node) resources nodes)
    (other : ∀ resource ∈ resources, ∀ metafield,
      metafieldsData.get? resource.1.text = some metafield → metafield.odooKey = name →
        resource.2 = [])
    (result : Dict String (Dict String α)) :
    (nodes.foldl (parseNested metafieldsData) result).get? name = result.get? name := by
  induction described generalizing result with
  | nil => rfl
  | @cons resource node resources nodes head tail induction =>
      have rest := induction fun resource member =>
        other resource (List.mem_cons_of_mem _ member)
      rw [List.foldl_cons, rest, parseNested, head.resourceId]
      cases stored : metafieldsData.get? resource.1.text with
      | none => rfl
      | some metafield =>
          apply product.get?_parseNode_of_other head
          intro text member same
          rw [other resource List.mem_cons_self metafield stored same] at member
          cases member

/-- The text of the nested resource of a metafield is parsed under the key of the metafield. -/
theorem get?_foldl_nested
    (described : List.Forall₂ (fun expected node =>
      product.Describes expected.1.text expected.2 locale node) resources nodes)
    (nodup : (resources.map fun resource => resource.1.text).Nodup)
    {resource : Gid × List (String × α)} (member : resource ∈ resources) {metafield : Metafield}
    (stored : metafieldsData.get? resource.1.text = some metafield) {text : String × α}
    (single : resource.2 = [text])
    (unique : ∀ other ∈ resources, ∀ otherField,
      metafieldsData.get? other.1.text = some otherField →
        otherField.odooKey = metafield.odooKey → other.1.text = resource.1.text)
    (result : Dict String (Dict String α)) :
    (nodes.foldl (parseNested metafieldsData) result).get? metafield.odooKey =
      some (product.parsed locale resource.1.text text.1 text.2) := by
  induction described generalizing result with
  | nil => cases member
  | @cons head node resources nodes own tail induction =>
      rw [List.map_cons, List.nodup_cons] at nodup
      rw [List.foldl_cons]
      rcases List.mem_cons.mp member with rfl | later
      · rw [product.get?_foldl_of_other tail, parseNested, own.resourceId, stored]
        · apply product.get?_parseNode own (by simp [single]) rfl
          intro other listed _
          rw [single] at listed
          exact List.mem_singleton.mp listed
        · intro other listed otherField found same
          have equal := unique other (List.mem_cons_of_mem _ listed) otherField found same
          exact absurd (equal ▸ List.mem_map_of_mem listed) nodup.1
      · apply induction nodup.2 later
        intro other listed
        exact unique other (List.mem_cons_of_mem _ listed)

end

/-- The texts that the queries reach, with these metafields. -/
def Reached (metafields : List Metafield) (name id key : String) (value : α) : Prop :=
  (name = key ∧ id = product.gid.text ∧ (key, value) ∈ product.content) ∨
    ∃ resource ∈ product.nested.take nestedLimit, ∃ metafield ∈ metafields,
      metafield.gid.text = resource.1.text ∧ name = metafield.odooKey ∧ id = resource.1.text ∧
        (key, value) ∈ resource.2

theorem prefix_odooKey (metafield : Metafield) :
    "metafields.".toList <+: metafield.odooKey.toList := by
  simp [Metafield.odooKey]

/-- The nested resources are gone through, also where there are no metafields. -/
theorem parseTranslations_eq (metafieldsData : Dict String Metafield)
    (resource : TranslatableResource α) :
    parseTranslations metafieldsData resource =
      resource.nestedTranslatableResources.foldl (parseNested metafieldsData)
        (parseNode (fun key => key) ∅ resource.toResourceNode) := by
  rw [parseTranslations]
  split
  · rename_i empty
    have nothing (id : String) : metafieldsData.get? id = none := by
      rw [Dict.get?, List.isEmpty_iff.mp empty]
      rfl
    generalize parseNode (fun key => key) ∅ resource.toResourceNode = result
    induction resource.nestedTranslatableResources with
    | nil => rfl
    | cons nested rest induction => rw [List.foldl_cons, parseNested, nothing, ← induction]
  · rfl

section

variable {metafields : List Metafield} {metafieldsData : Dict String Metafield}
  {target : PullTarget} {resource : TranslatableResource α}

/-- What is parsed of an answer: the texts that are reached. -/
theorem get?_parseTranslations (known : ∀ metafield ∈ metafields, metafield ∈ product.metafields)
    (stored : ∀ id metafield, metafieldsData.get? id = some metafield ↔
      metafield ∈ metafields ∧ metafield.gid.text = id)
    (answers : product.Answers target resource) (same : target.nestedLocale = target.locale)
    {name id key : String} {value : α} (reached : product.Reached metafields name id key value) :
    (parseTranslations metafieldsData resource).get? name =
      some (product.parsed target.locale id key value) := by
  have nested := answers.nested
  rw [same] at nested
  rw [parseTranslations_eq]
  rcases reached with ⟨rfl, rfl, member⟩ | ⟨resource, listed, metafield, field, ids, rfl, rfl, text⟩
  · rw [product.get?_foldl_of_other nested]
    · apply product.get?_parseNode answers.own member rfl
      intro other listed same
      exact List.inj_on_of_nodup_map product.contentKeys listed member same
    · intro resource _ metafield _ same
      have plain := product.ownKeys _ member
      exact absurd (same ▸ prefix_odooKey metafield) plain
  · have within := List.mem_of_mem_take listed
    have single : resource.2 = [(key, value)] := by
      have short := product.metafieldTexts resource within metafield (known metafield field) ids
      obtain ⟨only, one⟩ := List.length_eq_one_iff.mp
        (Nat.le_antisymm short (List.length_pos_of_mem text))
      rw [one] at text ⊢
      rw [List.mem_singleton.mp text]
    apply product.get?_foldl_nested nested _ listed ((stored _ _).mpr ⟨field, ids⟩) single
    · intro other _ otherField found same
      obtain ⟨otherListed, otherIds⟩ := (stored _ _).mp found
      have equal := List.inj_on_of_nodup_map product.metafieldKeys (known _ otherListed)
        (known _ field) same
      rw [← otherIds, equal, ids]
    · rw [List.map_take]
      exact product.nestedIds.sublist (List.take_sublist _ _)

theorem get?_parseTranslations_eq_none
    (stored : ∀ id metafield, metafieldsData.get? id = some metafield ↔
      metafield ∈ metafields ∧ metafield.gid.text = id)
    (answers : product.Answers target resource) {name : String}
    (unreached : ∀ id key value, ¬ product.Reached metafields name id key value) :
    (parseTranslations metafieldsData resource).get? name = none := by
  rw [parseTranslations_eq, product.get?_foldl_of_other answers.nested,
    product.get?_parseNode_of_other answers.own]
  · rfl
  · intro text member same
    exact unreached product.gid.text text.1 text.2 (.inl ⟨same.symm, rfl, member⟩)
  · intro resource listed metafield found same
    obtain ⟨field, ids⟩ := (stored _ _).mp found
    apply List.eq_nil_iff_forall_not_mem.mpr
    intro text member
    exact unreached resource.1.text text.1 text.2
      (.inr ⟨resource, listed, metafield, field, ids, same.symm, rfl, member⟩)

end

/-! ## Merging the languages -/

theorem get?_parsed (locale other id key : String) (value : α) :
    (product.parsed locale id key value).get? other =
      match product.translation id key locale with
      | some translated => if other = locale then some translated else none
      | none => if other = product.primary.code then some value else none := by
  rw [parsed]
  cases product.translation id key locale <;> exact Dict.get?_single _ _ _

/-- What the languages give for one text, once merged. -/
theorem entry_merged {locales : List String} (primary : product.primary.code ∈ locales)
    {dicts : List (Dict String (Dict String α))} {name id key : String} {value : α}
    (parses : ∀ dict ∈ dicts, ∃ locale ∈ locales,
      dict.get? name = some (product.parsed locale id key value))
    (all : ∀ locale ∈ locales, ∃ dict ∈ dicts,
      dict.get? name = some (product.parsed locale id key value)) (locale : String) :
    (Dict.mergeAll dicts).entry name locale =
      if locale = product.primary.code then some value
      else if locale ∈ locales then product.translation id key locale else none := by
  have entries (dict : Dict String (Dict String α)) {source : String}
      (stored : dict.get? name = some (product.parsed source id key value)) :
      dict.entry name locale =
        match product.translation id key source with
        | some translated => if locale = source then some translated else none
        | none => if locale = product.primary.code then some value else none := by
    rw [Dict.entry, stored, Option.bind_some, product.get?_parsed]
  by_cases first : locale = product.primary.code
  · rw [if_pos first]
    apply Dict.entry_mergeAll_eq_some
    · obtain ⟨dict, member, stored⟩ := all _ primary
      refine ⟨dict, member, ?_⟩
      rw [entries dict stored, product.primaryUntranslated]
      exact if_pos first
    · intro dict member
      obtain ⟨source, _, stored⟩ := parses dict member
      rw [entries dict stored]
      cases translated : product.translation id key source with
      | none => exact .inr (if_pos first)
      | some text =>
          have other : locale ≠ source := by
            intro same
            rw [← same, first, product.primaryUntranslated] at translated
            cases translated
          exact .inl (if_neg other)
  · rw [if_neg first]
    -- Without a translation into the language nothing is merged for it.
    have nothing (untranslated : locale ∈ locales → product.translation id key locale = none) :
        (Dict.mergeAll dicts).entry name locale = none := by
      apply Dict.entry_mergeAll_eq_none
      intro dict member
      obtain ⟨source, pulled, stored⟩ := parses dict member
      rw [entries dict stored]
      cases translated : product.translation id key source with
      | none => exact if_neg first
      | some text =>
          have other : locale ≠ source := by
            intro same
            rw [← same] at pulled translated
            rw [untranslated pulled] at translated
            cases translated
          exact if_neg other
    by_cases pulled : locale ∈ locales
    · rw [if_pos pulled]
      cases translated : product.translation id key locale with
      | none => exact nothing fun _ => translated
      | some text =>
          apply Dict.entry_mergeAll_eq_some
          · obtain ⟨dict, member, stored⟩ := all locale pulled
            refine ⟨dict, member, ?_⟩
            rw [entries dict stored, translated]
            exact if_pos rfl
          · intro dict member
            obtain ⟨source, _, stored⟩ := parses dict member
            rw [entries dict stored]
            by_cases same : locale = source
            · rw [← same, translated]
              exact .inr (if_pos rfl)
            · cases product.translation id key source with
              | none => exact .inl (if_neg first)
              | some other => exact .inl (if_neg same)
    · rw [if_neg pulled]
      exact nothing fun member => absurd member pulled

/-! ## The whole run -/

variable (server : product.Server) {pulled : List Locale} {targets : List PullTarget}

/-- A query with well-formed aliases is answered for each target. -/
theorem pull_ok
    (order : Enumerates targets
      (pulled.map fun locale => addTargetToPull product.gid.text locale.code))
    (plain : ∀ locale ∈ pulled, locale.region = none) :
    ∃ resources, pull server.toClient targets = .ok resources ∧
      (∀ resource ∈ resources, ∃ target ∈ targets, product.Answers target resource) ∧
      ∀ target ∈ targets, ∃ resource ∈ resources, product.Answers target resource := by
  have listed (target : PullTarget) (member : target ∈ targets) :
      ∃ locale ∈ pulled, addTargetToPull product.gid.text locale.code = target :=
    List.mem_map.mp ((order.mem_iff target).mp member)
  have names : ∀ target ∈ targets, target.gid = product.gid.text ∧ IsName target.name := by
    intro target member
    obtain ⟨locale, asked, rfl⟩ := listed target member
    exact ⟨rfl, (isName_formatGidKey_iff product.gid locale).mpr (plain locale asked)⟩
  have distinct : (targets.map PullTarget.name).Nodup := by
    apply List.Nodup.map_on _ order.nodup
    intro target member other otherMember same
    obtain ⟨locale, _, rfl⟩ := listed target member
    obtain ⟨language, _, rfl⟩ := listed other otherMember
    have codes := (formatGidKey_injective same).2
    rw [codes]
  by_cases empty : targets = []
  · rw [empty]
    exact ⟨[], rfl, by simp, by simp⟩
  obtain ⟨data, executed, answered, only⟩ := server.answers targets names distinct
  refine ⟨data.values.filterMap fun answer => answer, ?_, ?_, ?_⟩
  · rw [pull, if_neg empty, executed]
    rfl
  · intro resource member
    obtain ⟨answer, stored, some⟩ := List.mem_filterMap.mp member
    obtain ⟨⟨name, _⟩, entry, rfl⟩ := List.mem_map.mp stored
    dsimp only at some
    have found := (data.get?_eq_some_iff name _).mpr entry
    obtain ⟨target, asked, rfl⟩ := only name _ found
    obtain ⟨own, given, answers⟩ := answered target asked
    rw [given] at found
    cases Option.some.inj found
    cases some
    exact ⟨target, asked, answers⟩
  · intro target asked
    obtain ⟨resource, given, answers⟩ := answered target asked
    have entry := (data.get?_eq_some_iff _ _).mp given
    exact ⟨resource, List.mem_filterMap.mpr ⟨some resource, List.mem_map_of_mem entry, rfl⟩,
      answers⟩

/-- The metafields by their ids. -/
theorem get?_metafields {metafields : List Metafield}
    (nodup : (metafields.map fun metafield => metafield.gid.text).Nodup) (id : String)
    (metafield : Metafield) :
    (Dict.updateAll (fun metafield => metafield.gid.text) (fun metafield _ => metafield) ∅
        metafields).get? id = some metafield ↔
      metafield ∈ metafields ∧ metafield.gid.text = id := by
  have agree (metafield : Metafield) (member : metafield ∈ metafields) :
      (Dict.updateAll (fun metafield => metafield.gid.text) (fun metafield _ => metafield) ∅
        metafields).get? metafield.gid.text = some metafield := by
    apply Dict.get?_updateAll_of_agree ⟨metafield, member, rfl⟩
    intro other listed same
    exact List.inj_on_of_nodup_map nodup listed member same
  constructor
  · intro stored
    by_cases present : ∃ other ∈ metafields, other.gid.text = id
    · obtain ⟨other, member, rfl⟩ := present
      cases Option.some.inj ((agree other member).symm.trans stored)
      exact ⟨member, rfl⟩
    · rw [Dict.get?_updateAll_of_none fun other member same => present ⟨other, member, same⟩]
        at stored
      cases stored
  · rintro ⟨member, rfl⟩
    exact agree metafield member

theorem infix_text {gid : Gid} (typed : gid.type = "Metafield") :
    "/Metafield/".toList <:+: gid.text.toList := by
  refine ⟨"gid://shopify".toList, gid.id.toList, ?_⟩
  simp [Gid.text, typed]

theorem exists_described {resources : List (Gid × List (String × α))}
    {nodes : List (ResourceNode α)}
    (described : List.Forall₂ (fun expected node =>
      product.Describes expected.1.text expected.2 locale node) resources nodes)
    {resource : Gid × List (String × α)} (member : resource ∈ resources) :
    ∃ node ∈ nodes, product.Describes resource.1.text resource.2 locale node := by
  induction described with
  | nil => cases member
  | @cons head node resources nodes own tail induction =>
      rcases List.mem_cons.mp member with rfl | later
      · exact ⟨node, List.mem_cons_self, own⟩
      · obtain ⟨other, listed, describes⟩ := induction later
        exact ⟨other, List.mem_cons_of_mem _ listed, describes⟩

/-- The metafields are not asked for only where no nested resource is one. -/
theorem reached_nil_iff {resources : List (TranslatableResource α)}
    (answered : ∃ target, ∃ resource ∈ resources, product.Answers target resource)
    (none : resources.any hasNestedMetafields = false) (name id key : String) (value : α) :
    product.Reached [] name id key value ↔
      product.Reached (product.metafields.take metafieldLimit) name id key value := by
  constructor
  · rintro (own | ⟨_, _, _, member, _⟩)
    · exact .inl own
    · cases member
  · rintro (own | ⟨resource, listed, metafield, field, ids, _⟩)
    · exact .inl own
    · -- The answer has a node for the resource.
      obtain ⟨target, answer, member, answers⟩ := answered
      obtain ⟨node, found, described⟩ := product.exists_described answers.nested listed
      have nested : hasNestedMetafields answer = true := by
        apply List.any_eq_true.mpr
        refine ⟨node, found, decide_eq_true ?_⟩
        rw [described.resourceId, ← ids]
        exact infix_text (product.metafieldTypes metafield (List.mem_of_mem_take field))
      have present : resources.any hasNestedMetafields = true :=
        List.any_eq_true.mpr ⟨answer, member, nested⟩
      rw [none] at present
      cases present

/-- What the run gives: the merged answers, parsed with metafields that reach the same texts. -/
theorem fetchTranslations_ok
    (order : Enumerates targets
      (pulled.map fun locale => addTargetToPull product.gid.text locale.code))
    (nonempty : targets ≠ []) (plain : ∀ locale ∈ pulled, locale.region = none) :
    ∃ (resources : List (TranslatableResource α)) (metafields : List Metafield)
      (metafieldsData : Dict String Metafield),
      fetchTranslations server.toClient product.gid.text targets =
        .ok (Dict.mergeAll (resources.map (parseTranslations metafieldsData))) ∧
      (∀ resource ∈ resources, ∃ target ∈ targets, product.Answers target resource) ∧
      (∀ target ∈ targets, ∃ resource ∈ resources, product.Answers target resource) ∧
      (∀ metafield ∈ metafields, metafield ∈ product.metafields) ∧
      (∀ id metafield, metafieldsData.get? id = some metafield ↔
        metafield ∈ metafields ∧ metafield.gid.text = id) ∧
      ∀ name id key value, product.Reached metafields name id key value ↔
        product.Reached (product.metafields.take metafieldLimit) name id key value := by
  obtain ⟨resources, answered, each, all⟩ := product.pull_ok server order plain
  cases nested : resources.any hasNestedMetafields with
  | true =>
      refine ⟨resources, product.metafields.take metafieldLimit,
        Dict.updateAll (fun metafield => metafield.gid.text) (fun metafield _ => metafield) ∅
          (product.metafields.take metafieldLimit), ?_, each, all, ?_, ?_, ?_⟩
      · rw [fetchTranslations, answered]
        dsimp only [bind, Except.bind]
        rw [nested, if_pos rfl, server.limits]
        rfl
      · intro metafield member
        exact List.mem_of_mem_take member
      · apply get?_metafields
        rw [List.map_take]
        exact product.metafieldIds.sublist (List.take_sublist _ _)
      · intro name id key value
        rfl
  | false =>
      obtain ⟨target, asked⟩ := List.exists_mem_of_ne_nil targets nonempty
      obtain ⟨resource, member, answers⟩ := all target asked
      refine ⟨resources, [], ∅, ?_, each, all, by simp, ?_, ?_⟩
      · rw [fetchTranslations, answered]
        dsimp only [bind, Except.bind]
        rw [nested]
        rfl
      · intro id metafield
        exact iff_of_false (by simp [Dict.get?_empty]) (by simp)
      · exact product.reached_nil_iff ⟨target, resource, member, answers⟩ nested

/-- Where the query is answered, the result tells exactly the texts that are reached. -/
theorem fetched_reached
    (order : Enumerates targets
      (pulled.map fun locale => addTargetToPull product.gid.text locale.code))
    (primary : product.primary.code ∈ pulled.map Locale.code)
    (plain : ∀ locale ∈ pulled, locale.region = none) :
    ∃ dict, fetchTranslations server.toClient product.gid.text targets = .ok dict ∧
      (∀ name id key value,
        product.Reached (product.metafields.take metafieldLimit) name id key value →
        ∃ texts, dict.get? name = some texts ∧ ∀ locale, texts.get? locale =
          if locale = product.primary.code then some value
          else if locale ∈ pulled.map Locale.code then product.translation id key locale
          else none) ∧
      ∀ name, (∀ id key value,
        ¬ product.Reached (product.metafields.take metafieldLimit) name id key value) →
        dict.get? name = none := by
  have asked (locale : Locale) (member : locale ∈ pulled) :
      addTargetToPull product.gid.text locale.code ∈ targets :=
    (order.mem_iff _).mpr (List.mem_map_of_mem member)
  have listed (target : PullTarget) (member : target ∈ targets) :
      ∃ locale ∈ pulled, addTargetToPull product.gid.text locale.code = target :=
    List.mem_map.mp ((order.mem_iff target).mp member)
  have nonempty : targets ≠ [] := by
    obtain ⟨locale, member, _⟩ := List.mem_map.mp primary
    exact List.ne_nil_of_mem (asked locale member)
  obtain ⟨resources, metafields, metafieldsData, fetched, each, all, known, stored, same⟩ :=
    product.fetchTranslations_ok server order nonempty plain
  refine ⟨_, fetched, ?_, ?_⟩
  · intro name id key value reached
    have within := (same name id key value).mpr reached
    have parses : ∀ dict ∈ resources.map (parseTranslations metafieldsData),
        ∃ locale ∈ pulled.map Locale.code,
          dict.get? name = some (product.parsed locale id key value) := by
      intro dict member
      obtain ⟨resource, answered, rfl⟩ := List.mem_map.mp member
      obtain ⟨target, targeted, answers⟩ := each resource answered
      obtain ⟨locale, mapped, rfl⟩ := listed target targeted
      exact ⟨locale.code, List.mem_map_of_mem mapped,
        product.get?_parseTranslations known stored answers rfl within⟩
    have complete : ∀ locale ∈ pulled.map Locale.code,
        ∃ dict ∈ resources.map (parseTranslations metafieldsData),
          dict.get? name = some (product.parsed locale id key value) := by
      intro code member
      obtain ⟨locale, mapped, rfl⟩ := List.mem_map.mp member
      obtain ⟨resource, answered, answers⟩ := all _ (asked locale mapped)
      exact ⟨_, List.mem_map_of_mem answered,
        product.get?_parseTranslations known stored answers rfl within⟩
    have entries := product.entry_merged primary parses complete
    cases texts : (Dict.mergeAll (resources.map (parseTranslations metafieldsData))).get? name with
    | none =>
        obtain ⟨dict, member, found⟩ := complete _ primary
        rw [Dict.get?_mergeAll_eq_none_iff.mp texts dict member] at found
        cases found
    | some texts' =>
        refine ⟨texts', rfl, fun locale => ?_⟩
        have entry := entries locale
        rwa [Dict.entry, texts, Option.bind_some] at entry
  · intro name unreached
    apply Dict.get?_mergeAll_eq_none_iff.mpr
    intro dict member
    obtain ⟨resource, answered, rfl⟩ := List.mem_map.mp member
    obtain ⟨target, _, answers⟩ := each resource answered
    apply product.get?_parseTranslations_eq_none stored answers
    intro id key value reached
    exact unreached id key value ((same name id key value).mp reached)

/-- Within the limits, the texts that are reached are all that can be translated. -/
theorem reached_iff (within : product.WithinLimits) (name id key : String) (value : α) :
    product.Reached (product.metafields.take metafieldLimit) name id key value ↔
      product.Translatable name id key value := by
  constructor
  · rintro (own | ⟨resource, listed, metafield, field, text⟩)
    · exact .inl own
    · exact .inr
        ⟨resource, List.mem_of_mem_take listed, metafield, List.mem_of_mem_take field, text⟩
  · rintro (own | ⟨resource, listed, metafield, field, ids, same, text⟩)
    · exact .inl own
    · obtain ⟨near, found⟩ := within resource listed metafield field ids
        (List.ne_nil_of_mem text.2)
      exact .inr ⟨resource, near, metafield, found, ids, same, text⟩

/-- A language with a region makes the query one that the store refuses. -/
theorem fetchTranslations_refused
    (order : Enumerates targets
      (pulled.map fun locale => addTargetToPull product.gid.text locale.code))
    {locale : Locale} (member : locale ∈ pulled) (region : locale.region ≠ none) :
    ∃ message, fetchTranslations server.toClient product.gid.text targets = .error message := by
  have asked : addTargetToPull product.gid.text locale.code ∈ targets :=
    (order.mem_iff _).mpr (List.mem_map_of_mem member)
  have noName : ¬ IsName (addTargetToPull product.gid.text locale.code).name := by
    intro named
    exact region ((isName_formatGidKey_iff product.gid locale).mp named)
  obtain ⟨message, refused⟩ := server.refuses targets ⟨_, asked, noName⟩
  refine ⟨message, ?_⟩
  rw [fetchTranslations, pull, if_neg (List.ne_nil_of_mem asked), refused]
  rfl

/-- The fetched translations are complete exactly if no language has a region and the metafields
are within the limits. -/
theorem fetchTranslations_complete_iff
    (order : Enumerates targets
      (pulled.map fun locale => addTargetToPull product.gid.text locale.code))
    (primary : product.primary.code ∈ pulled.map Locale.code) :
    product.Complete pulled (fetchTranslations server.toClient product.gid.text targets) ↔
      (∀ locale ∈ pulled, locale.region = none) ∧ product.WithinLimits := by
  constructor
  · intro ⟨dict, fetched, complete, _⟩
    have plain : ∀ locale ∈ pulled, locale.region = none := by
      intro locale member
      by_contra region
      obtain ⟨message, refused⟩ := product.fetchTranslations_refused server order member region
      rw [refused] at fetched
      cases fetched
    refine ⟨plain, ?_⟩
    intro resource listed metafield field ids nonempty
    obtain ⟨text, member⟩ := List.exists_mem_of_ne_nil resource.2 nonempty
    obtain ⟨texts, present, _⟩ := complete metafield.odooKey resource.1.text text.1 text.2
      (.inr ⟨resource, listed, metafield, field, ids, rfl, rfl, member⟩)
    obtain ⟨dict', same, _, others⟩ := product.fetched_reached server order primary plain
    cases fetched.symm.trans same
    -- The key is in the result, so a resource with this key is reached.
    by_contra beyond
    have absent : dict.get? metafield.odooKey = none := by
      apply others
      rintro id key value (⟨keyed, _, own⟩ | ⟨found, near, other, otherField, otherIds, keyed, _⟩)
      · exact product.ownKeys _ own (keyed ▸ prefix_odooKey metafield)
      · have equal := List.inj_on_of_nodup_map product.metafieldKeys field
          (List.mem_of_mem_take otherField) keyed
        rw [← equal, ids] at otherIds
        have sameResource := List.inj_on_of_nodup_map product.nestedIds listed
          (List.mem_of_mem_take near) otherIds
        rw [← sameResource] at near
        rw [← equal] at otherField
        exact beyond ⟨near, otherField⟩
    rw [absent] at present
    cases present
  · intro ⟨plain, within⟩
    obtain ⟨dict, fetched, reached, others⟩ := product.fetched_reached server order primary plain
    refine ⟨dict, fetched, ?_, ?_⟩
    · intro name id key value translatable
      exact reached name id key value
        ((product.reached_iff within name id key value).mpr translatable)
    · intro name absent
      apply others
      intro id key value found
      exact absent id key value ((product.reached_iff within name id key value).mp found)

/-! ## A store that answers -/

/-- The texts of a resource and their translations, in the order of the texts. -/
def textNode (id : String) (texts : List (String × α)) (locale : String) : ResourceNode α where
  resourceId := id
  translatableContent := texts.map fun text => ⟨text.1, text.2, product.primary.code⟩
  translations := texts.filterMap fun text =>
    (product.translation id text.1 locale).map fun value => ⟨text.1, value, locale⟩

theorem describes_textNode (id : String) (texts : List (String × α)) (locale : String) :
    product.Describes id texts locale (product.textNode id texts locale) where
  resourceId := rfl
  content text := by
    rw [textNode, List.mem_map]
    constructor
    · rintro ⟨content, member, rfl⟩
      exact ⟨member, rfl⟩
    · rintro ⟨member, language⟩
      exact ⟨_, member, by rw [← language]⟩
  translations text := by
    rw [textNode, List.mem_filterMap]
    constructor
    · rintro ⟨content, member, found⟩
      obtain ⟨value, translated, rfl⟩ := Option.map_eq_some_iff.mp found
      exact ⟨List.mem_map_of_mem member, translated, rfl⟩
    · rintro ⟨keyed, translated, language⟩
      obtain ⟨content, member, same⟩ := List.mem_map.mp keyed
      refine ⟨content, member, ?_⟩
      rw [same, translated, Option.map_some, ← language]

def answer (target : PullTarget) : TranslatableResource α :=
  { product.textNode product.gid.text product.content target.locale with
    nestedTranslatableResources := (product.nested.take nestedLimit).map fun resource =>
      product.textNode resource.1.text resource.2 target.nestedLocale }

theorem answers_answer (target : PullTarget) : product.Answers target (product.answer target) where
  own := product.describes_textNode product.gid.text product.content target.locale
  nested := by
    rw [answer, List.forall₂_map_right_iff, List.forall₂_same]
    intro resource _
    exact product.describes_textNode resource.1.text resource.2 target.nestedLocale

/-- The store that answers in the order of its texts. -/
def standardServer : product.Server where
  execute targets :=
    if ∀ target ∈ targets, IsName target.name then
      .ok (Dict.updateAll PullTarget.name (fun target _ => some (product.answer target)) ∅ targets)
    else .error "syntax error"
  getMetafields _ limit := .ok (product.metafields.take limit)
  answers targets names nodup := by
    refine ⟨_, if_pos fun target member => (names target member).2, ?_, ?_⟩
    · intro target member
      refine ⟨product.answer target, ?_, product.answers_answer target⟩
      apply Dict.get?_updateAll_of_agree ⟨target, member, rfl⟩
      intro other listed same
      rw [List.inj_on_of_nodup_map nodup listed member same]
    · intro name answer stored
      by_contra absent
      rw [Dict.get?_updateAll_of_none fun target member same => absent ⟨target, member, same⟩]
        at stored
      cases stored
  refuses targets noName := by
    obtain ⟨target, member, noName⟩ := noName
    exact ⟨_, if_neg fun names => noName (names target member)⟩
  limits _ := rfl

end StoreProduct

/-! ## A shirt -/

def english : Locale := ⟨"en", none, by simp, by simp, by simp⟩

def french : Locale := ⟨"fr", none, by simp, by simp, by simp⟩

def materialField : Metafield :=
  ⟨⟨"Metafield", "7", by simp, by simp, by simp⟩, "custom", "material"⟩

/-- A product whose title is translated into French and whose material is not. -/
def shirt : StoreProduct String where
  gid := ⟨"Product", "1", by simp, by simp, by simp⟩
  primary := english
  content := [("title", "Shirt")]
  nested := [(materialField.gid, [("value", "Cotton")])]
  metafields := [materialField]
  translation _ key locale := if key = "title" ∧ locale = "fr" then some "Chemise" else none
  contentKeys := by simp
  ownKeys := by simp
  nestedIds := by simp
  metafieldIds := by simp
  metafieldTypes := by simp [materialField]
  metafieldKeys := by simp
  metafieldTexts := by simp
  primaryUntranslated := by simp [english, Locale.code]

/-- Its translations into these languages. -/
def shirtTargets (pulled : List Locale) : List PullTarget :=
  (pulled.map fun locale => addTargetToPull shirt.gid.text locale.code).dedup

theorem shirt_fetched :
    shirt.Complete [english, french] (fetchTranslations shirt.standardServer.toClient
      shirt.gid.text (shirtTargets [english, french])) :=
  (@StoreProduct.fetchTranslations_complete_iff _ shirt shirt.standardServer [english, french] _
    (enumerates_dedup _) (by simp [shirt])).mpr
      ⟨by simp [english, french], by simp [StoreProduct.WithinLimits, shirt, nestedLimit,
        metafieldLimit]⟩

/-- With Portuguese as spoken in Brazil nothing is fetched. -/
theorem brazilian_shirt_not_fetched :
    ¬ shirt.Complete [english, brazilian] (fetchTranslations shirt.standardServer.toClient
      shirt.gid.text (shirtTargets [english, brazilian])) := by
  obtain ⟨message, refused⟩ := @StoreProduct.fetchTranslations_refused _ shirt
    shirt.standardServer [english, brazilian] _ (enumerates_dedup _) brazilian (by simp)
    (by simp [brazilian])
  rw [shirtTargets, refused]
  rintro ⟨dict, fetched, _⟩
  cases fetched

end Translation
end OdooConnector
