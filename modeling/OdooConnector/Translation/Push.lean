import OdooConnector.Library.Grouping
import OdooConnector.Translation.GidKey

/-!
# Pushed translations

A mutation registers the translations of every resource and language. Its body declares the
variables that are given values, and every pushed translation is sent once, but the body is no query
where a language code has a region.
-/

namespace OdooConnector
namespace Translation

structure TranslationInput where
  key : String
  value : String
  locale : String
  translatableContentDigest : String
deriving DecidableEq

/-- An element of `_payload_push`. -/
structure Target where
  gidKey : String × String
  translationKey : String
  translation : TranslationInput
deriving DecidableEq

/-- A call of `add_target_to_push`. -/
structure Push where
  gid : Gid
  key : String
  value : String
  primaryValue : String
  locale : Locale

/-- The value of a variable. -/
inductive Variable
  | id (gid : String)
  | inputs (translations : List TranslationInput)

inductive VariableType
  | id | translationInputs

/-- One `translationsRegister` of a mutation, with the names of its variables. -/
structure Register where
  name : String
  resourceId : String
  translations : String

structure Mutation where
  declared : List (String × VariableType)
  registers : List Register

/-- Where the content of a resource has changed since, the digest tells. -/
abbrev Digest := String → String

def formatTranslationKey (value : String) (locale : Option String) : String :=
  formatGidKey value locale ++ "_translations"

def addTargetToPush (digest : Digest) (payload : List Target)
    (gid key value primaryValue locale : String) : List Target :=
  payload ++ [⟨(formatGidKey gid (some locale), gid), formatTranslationKey gid (some locale),
    ⟨key, value, locale, digest primaryValue⟩⟩]

/-- The payload after a run of calls. -/
def payloadPush (digest : Digest) (pushes : List Push) : List Target :=
  pushes.foldl (fun payload push => addTargetToPush digest payload push.gid.text push.key push.value
    push.primaryValue push.locale.code) []

/-- The orders in which the sets of a payload are gone through. -/
structure SetOrders (payload : List Target) where
  ids : List (String × String)
  targets : List (String × String)
  enumeratesIds : Enumerates ids (payload.map Target.gidKey)
  enumeratesTargets : Enumerates targets
    (payload.map fun target => (target.gidKey.1, target.translationKey))

/-- `values[translation_key].append(translation)`, which a text under the key does not have. -/
def appendTranslation (values : Dict String Variable) (target : Target) :
    Except String (Dict String Variable) :=
  match values.get? target.translationKey with
  | none => .ok (values.update target.translationKey fun _ => .inputs [target.translation])
  | some (.inputs translations) =>
      .ok (values.update target.translationKey fun _ =>
        .inputs (translations ++ [target.translation]))
  | some (.id _) => .error "'str' object has no attribute 'append'"

def prepareVariablesPush (payload : List Target) (orders : SetOrders payload) :
    Except String (Dict String Variable) :=
  payload.foldlM appendTranslation (Dict.updateAll Prod.fst (fun pair _ => .id pair.2) ∅ orders.ids)

def assembleBodyPush (payload : List Target) (orders : SetOrders payload) : Mutation where
  declared := orders.targets.flatMap fun target =>
    [(target.1, .id), (target.2, .translationInputs)]
  registers := orders.targets.map fun target => ⟨target.1, target.1, target.2⟩

/-- What a mutation sends: the resource, the language and the key of each translation. -/
def sent (mutation : Mutation) (values : Dict String Variable) :
    List (String × String × String) :=
  mutation.registers.flatMap fun register =>
    match values.get? register.resourceId, values.get? register.translations with
    | some (.id gid), some (.inputs translations) =>
        translations.map fun translation => (gid, translation.locale, translation.key)
    | _, _ => []

/-! ## The payload -/

namespace Push

variable (push : Push)

/-- The alias of the resource and the language. -/
def gidKey : String := formatGidKey push.gid.text (some push.locale.code)

def translationKey : String := formatTranslationKey push.gid.text (some push.locale.code)

def target (digest : Digest) : Target :=
  ⟨(push.gidKey, push.gid.text), push.translationKey,
    ⟨push.key, push.value, push.locale.code, digest push.primaryValue⟩⟩

/-- The resource, the language and the key. -/
def triple : String × String × String := (push.gid.text, push.locale.code, push.key)

theorem split_translationKey : split '_' push.translationKey =
    [push.gid.type, push.gid.id, push.locale.code, "translations"] := by
  have text : push.translationKey = (String.singleton '_').intercalate
      [push.gid.type, push.gid.id, push.locale.code, "translations"] := by
    apply String.toList_injective
    rw [translationKey, formatTranslationKey, String.toList_append, toList_formatGidKey]
    simp
  rw [text]
  apply split_intercalate
  · intro part member
    simp only [List.mem_cons, List.not_mem_nil, or_false] at member
    rcases member with rfl | rfl | rfl | rfl
    · exact push.gid.not_mem_type rfl
    · exact push.gid.not_mem_id rfl
    · exact push.locale.underscore_not_mem
    · decide
  · exact List.cons_ne_nil _ _

theorem gidKey_ne_translationKey (other : Push) : push.gidKey ≠ other.translationKey := by
  intro same
  have parts := congrArg (split '_') same
  rw [gidKey, split_formatGidKey, split_translationKey] at parts
  simp at parts

theorem gidKey_eq_of_translationKey_eq {push other : Push}
    (same : push.translationKey = other.translationKey) : push.gidKey = other.gidKey := by
  have texts := congrArg String.toList same
  simp only [translationKey, formatTranslationKey, String.toList_append] at texts
  exact String.toList_injective (List.append_cancel_right texts)

theorem gid_eq_of_gidKey_eq {push other : Push} (same : push.gidKey = other.gidKey) :
    push.gid.text = other.gid.text :=
  (formatGidKey_injective same).1

end Push

section

variable (digest : Digest) (pushes : List Push)

theorem payloadPush_eq_map :
    payloadPush digest pushes = pushes.map fun push => push.target digest := by
  have extended (payload : List Target) :
      pushes.foldl (fun payload push => addTargetToPush digest payload push.gid.text push.key
        push.value push.primaryValue push.locale.code) payload =
      payload ++ pushes.map fun push => push.target digest := by
    induction pushes generalizing payload with
    | nil => simp
    | cons push pushes induction =>
        rw [List.foldl_cons, induction, addTargetToPush, List.append_assoc]
        rfl
  exact extended []

/-- Translations are appended to the values of their own names. -/
theorem appendTranslations (payload : List Target) (start : Dict String Variable)
    (free : ∀ target ∈ payload, start.get? target.translationKey = none) :
    ∃ values, payload.foldlM appendTranslation start = .ok values ∧
      ∀ name, values.get? name =
        if (payload.filter fun target => target.translationKey = name) = [] then start.get? name
        else some (.inputs ((payload.filter fun target => target.translationKey = name).map
          Target.translation)) := by
  induction payload using List.reverseRecOn with
  | nil => exact ⟨start, rfl, fun name => rfl⟩
  | append_singleton payload last induction =>
      have others (target : Target) (member : target ∈ payload) :=
        free target (List.mem_append_left [last] member)
      obtain ⟨values, run, stored⟩ := induction others
      have lastFree := free last (List.mem_append_right payload (List.mem_singleton_self last))
      have before := stored last.translationKey
      rw [lastFree] at before
      have appended : appendTranslation values last =
          .ok (values.update last.translationKey fun _ =>
            .inputs ((payload.filter fun target => target.translationKey = last.translationKey).map
              Target.translation ++ [last.translation])) := by
        rw [appendTranslation]
        split at before
        · rename_i nothing
          rw [before, nothing]
          rfl
        · rw [before]
      refine ⟨_, by rw [List.foldlM_append, run]; exact (bind_pure _).trans appended, ?_⟩
      intro name
      rw [Dict.get?_update, stored name]
      by_cases same : last.translationKey = name
      · simp [same]
      · simp [same, Ne.symm same]

/-! ## The values of the variables -/

/-- The values of the variables of a payload: its resources and its translations. -/
theorem prepareVariablesPush_ok (orders : SetOrders (payloadPush digest pushes)) :
    ∃ values, prepareVariablesPush (payloadPush digest pushes) orders = .ok values ∧
      (∀ push ∈ pushes, values.get? push.gidKey = some (.id push.gid.text)) ∧
      (∀ push ∈ pushes, values.get? push.translationKey =
        some (.inputs (((payloadPush digest pushes).filter fun target =>
          target.translationKey = push.translationKey).map Target.translation))) ∧
      ∀ name, (∀ push ∈ pushes, name ≠ push.gidKey ∧ name ≠ push.translationKey) →
        values.get? name = none := by
  have payload := payloadPush_eq_map digest pushes
  have ids (pair : String × String) :
      pair ∈ orders.ids ↔ ∃ push ∈ pushes, (push.gidKey, push.gid.text) = pair := by
    rw [orders.enumeratesIds.mem_iff, payload, List.map_map, List.mem_map]
    rfl
  have noId (name : String) (absent : ∀ push ∈ pushes, name ≠ push.gidKey) :
      (Dict.updateAll Prod.fst (fun pair _ => Variable.id pair.2) ∅ orders.ids).get? name =
        none := by
    apply Dict.get?_updateAll_of_none
    intro pair member same
    obtain ⟨push, pushed, rfl⟩ := (ids pair).mp member
    exact absent push pushed same.symm
  have free (target : Target) (member : target ∈ payloadPush digest pushes) :
      (Dict.updateAll Prod.fst (fun pair _ => Variable.id pair.2) ∅ orders.ids).get?
        target.translationKey = none := by
    rw [payload] at member
    obtain ⟨push, _, rfl⟩ := List.mem_map.mp member
    exact noId _ fun other _ => (other.gidKey_ne_translationKey push).symm
  obtain ⟨values, run, stored⟩ := appendTranslations (payloadPush digest pushes) _ free
  -- No translations stand under a name that no push has for them.
  have nothing (name : String) (absent : ∀ push ∈ pushes, name ≠ push.translationKey) :
      ((payloadPush digest pushes).filter fun target => target.translationKey = name) = [] := by
    rw [List.filter_eq_nil_iff, payload]
    intro target member
    obtain ⟨push, pushed, rfl⟩ := List.mem_map.mp member
    intro same
    exact absent push pushed (of_decide_eq_true same).symm
  refine ⟨values, run, ?_, ?_, ?_⟩
  · intro push member
    rw [stored, if_pos (nothing _ fun other _ => push.gidKey_ne_translationKey other)]
    apply Dict.get?_updateAll_of_agree
    · exact ⟨_, (ids _).mpr ⟨push, member, rfl⟩, rfl⟩
    · intro pair listed same
      obtain ⟨other, _, rfl⟩ := (ids pair).mp listed
      rw [Push.gid_eq_of_gidKey_eq same]
  · intro push member
    rw [stored, if_neg]
    intro empty
    have own := List.filter_eq_nil_iff.mp empty (push.target digest) (by
      rw [payload]
      exact List.mem_map_of_mem member)
    exact own (decide_eq_true rfl)
  · intro name absent
    rw [stored, if_pos (nothing name fun push member => (absent push member).2)]
    exact noId name fun push member => (absent push member).1

/-! ## What the mutation declares and sends -/

/-- The set of the names of the resources and the translations. -/
theorem mem_targets (orders : SetOrders (payloadPush digest pushes)) (names : String × String) :
    names ∈ orders.targets ↔
      ∃ push ∈ pushes, (push.gidKey, push.translationKey) = names := by
  rw [orders.enumeratesTargets.mem_iff, payloadPush_eq_map, List.map_map, List.mem_map]
  rfl

theorem mem_declared (orders : SetOrders (payloadPush digest pushes)) (name : String) :
    name ∈ (assembleBodyPush _ orders).declared.map Prod.fst ↔
      ∃ push ∈ pushes, name = push.gidKey ∨ name = push.translationKey := by
  simp only [assembleBodyPush, List.map_flatMap, List.map_cons, List.map_nil, List.mem_flatMap,
    mem_targets, List.mem_cons, List.not_mem_nil, or_false]
  constructor
  · intro declared
    obtain ⟨_, ⟨push, member, same⟩, named⟩ := declared
    rw [← same] at named
    exact ⟨push, member, named⟩
  · intro pushed
    obtain ⟨push, member, named⟩ := pushed
    exact ⟨_, ⟨push, member, rfl⟩, named⟩

/-- No variable is declared twice. -/
theorem declared_nodup (orders : SetOrders (payloadPush digest pushes)) :
    ((assembleBodyPush _ orders).declared.map Prod.fst).Nodup := by
  simp only [assembleBodyPush, List.map_flatMap, List.map_cons, List.map_nil]
  rw [List.nodup_flatMap]
  constructor
  · intro names member
    obtain ⟨push, _, rfl⟩ := (mem_targets digest pushes orders names).mp member
    simpa using push.gidKey_ne_translationKey push
  · apply List.Pairwise.imp_of_mem _ orders.enumeratesTargets.nodup
    intro names others member otherMember different
    obtain ⟨push, _, rfl⟩ := (mem_targets digest pushes orders names).mp member
    obtain ⟨other, _, rfl⟩ := (mem_targets digest pushes orders others).mp otherMember
    have keys : push.gidKey ≠ other.gidKey := by
      intro same
      apply different
      rw [Prod.mk.injEq, Push.translationKey, Push.translationKey, formatTranslationKey,
        formatTranslationKey]
      exact ⟨same, congrArg (· ++ "_translations") same⟩
    have translations : push.translationKey ≠ other.translationKey := by
      intro same
      exact keys (Push.gidKey_eq_of_translationKey_eq same)
    simp only [Function.onFun, List.disjoint_cons_left, List.mem_cons, List.not_mem_nil, or_false,
      not_or, List.disjoint_nil_left, and_true]
    exact ⟨⟨keys, push.gidKey_ne_translationKey other⟩,
      (other.gidKey_ne_translationKey push).symm, translations⟩

/-- Every pushed translation is sent, as often as it was pushed. -/
theorem sent_perm (orders : SetOrders (payloadPush digest pushes)) {values : Dict String Variable}
    (ids : ∀ push ∈ pushes, values.get? push.gidKey = some (.id push.gid.text))
    (inputs : ∀ push ∈ pushes, values.get? push.translationKey =
      some (.inputs (((payloadPush digest pushes).filter fun target =>
        target.translationKey = push.translationKey).map Target.translation))) :
    (sent (assembleBodyPush _ orders) values).Perm (pushes.map Push.triple) := by
  have groups := flatMap_filter_perm
    (fun target : Target => (target.gidKey.1, target.translationKey)) orders.enumeratesTargets
  have triples := groups.map fun target : Target =>
    (target.gidKey.2, target.translation.locale, target.translation.key)
  rw [List.map_flatMap] at triples
  have same : sent (assembleBodyPush _ orders) values = orders.targets.flatMap fun names =>
      ((payloadPush digest pushes).filter fun target =>
        (target.gidKey.1, target.translationKey) = names).map fun target =>
          (target.gidKey.2, target.translation.locale, target.translation.key) := by
    rw [sent, assembleBodyPush, List.flatMap_map]
    apply List.flatMap_congr
    intro names member
    obtain ⟨push, pushed, rfl⟩ := (mem_targets digest pushes orders names).mp member
    -- The name of the translations tells the resource.
    have selected : ((payloadPush digest pushes).filter fun target =>
        (target.gidKey.1, target.translationKey) = (push.gidKey, push.translationKey)) =
        (payloadPush digest pushes).filter fun target =>
          target.translationKey = push.translationKey := by
      apply List.filter_congr
      intro target listed
      rw [payloadPush_eq_map] at listed
      obtain ⟨other, _, rfl⟩ := List.mem_map.mp listed
      rw [decide_eq_decide, Prod.mk.injEq]
      constructor
      · intro both
        exact both.2
      · intro same
        exact ⟨Push.gidKey_eq_of_translationKey_eq same, same⟩
    simp only [ids push pushed, inputs push pushed, selected, List.map_map]
    apply List.map_congr_left
    intro target listed
    obtain ⟨listed, named⟩ := List.mem_filter.mp listed
    rw [payloadPush_eq_map] at listed
    obtain ⟨other, _, rfl⟩ := List.mem_map.mp listed
    have keys : other.gidKey = push.gidKey :=
      Push.gidKey_eq_of_translationKey_eq (of_decide_eq_true named)
    have texts := Push.gid_eq_of_gidKey_eq keys
    exact congrArg (·, other.locale.code, other.key) texts.symm
  have whole : (payloadPush digest pushes).map (fun target : Target =>
      (target.gidKey.2, target.translation.locale, target.translation.key)) =
      pushes.map Push.triple := by
    rw [payloadPush_eq_map, List.map_map]
    rfl
  rw [same, ← whole]
  exact triples

/-! ## Well-formed queries -/

/-- The resources and languages of the pulled and the pushed translations. -/
def usedTargets (pulled : List (Gid × Locale)) (pushes : List Push) : List (Gid × Locale) :=
  pulled ++ pushes.map fun push => (push.gid, push.locale)

/-- The alias of a resource and a language. -/
def targetAlias (target : Gid × Locale) : String := formatGidKey target.1.text (some target.2.code)

/-- The aliases are names that tell resources and languages apart and give the languages back; the
variables that are declared are given values, and every translation is sent once. -/
structure WellFormed (pulled : List (Gid × Locale))
    (orders : SetOrders (payloadPush digest pushes)) : Prop where
  names : ∀ target ∈ usedTargets pulled pushes, IsName (targetAlias target)
  distinct : ∀ target ∈ usedTargets pulled pushes, ∀ other ∈ usedTargets pulled pushes,
    (target.1.text, target.2.code) ≠ (other.1.text, other.2.code) →
      targetAlias target ≠ targetAlias other
  recovered : ∀ target ∈ usedTargets pulled pushes,
    parseLocaleFromGidKey (targetAlias target) = target.2.code
  declared : ∃ values, prepareVariablesPush (payloadPush digest pushes) orders = .ok values ∧
    ((assembleBodyPush _ orders).declared.map Prod.fst).Nodup ∧
    (∀ name, name ∈ (assembleBodyPush _ orders).declared.map Prod.fst ↔
      values.get? name ≠ none) ∧
    ∀ push ∈ pushes, (sent (assembleBodyPush _ orders) values).count push.triple = 1

/-- Queries are well formed exactly if no language has a region and nothing is pushed twice. -/
theorem queries_wellFormed_iff (pulled : List (Gid × Locale))
    (orders : SetOrders (payloadPush digest pushes)) :
    WellFormed digest pushes pulled orders ↔
      (∀ target ∈ usedTargets pulled pushes, target.2.region = none) ∧
        (pushes.map Push.triple).Nodup := by
  obtain ⟨values, prepared, ids, inputs, others⟩ := prepareVariablesPush_ok digest pushes orders
  have permuted := sent_perm digest pushes orders ids inputs
  constructor
  · intro ⟨names, _, _, declared⟩
    refine ⟨fun target member => (isName_formatGidKey_iff _ _).mp (names target member), ?_⟩
    obtain ⟨values', same, _, _, once⟩ := declared
    cases prepared.symm.trans same
    apply List.nodup_iff_count_eq_one.mpr
    intro triple member
    obtain ⟨push, pushed, rfl⟩ := List.mem_map.mp member
    rw [← permuted.count_eq]
    exact once push pushed
  · intro ⟨plain, nodup⟩
    constructor
    · intro target member
      exact (isName_formatGidKey_iff _ _).mpr (plain target member)
    · intro target _ other _ different same
      obtain ⟨texts, codes⟩ := formatGidKey_injective same
      exact different (Prod.ext texts codes)
    · intro target _
      exact parseLocaleFromGidKey_formatGidKey target.1 target.2
    · refine ⟨values, prepared, declared_nodup digest pushes orders, ?_, ?_⟩
      · intro name
        rw [mem_declared]
        constructor
        · intro ⟨push, member, named⟩
          rcases named with rfl | rfl
          · rw [ids push member]
            exact Option.some_ne_none _
          · rw [inputs push member]
            exact Option.some_ne_none _
        · intro stored
          by_contra unused
          apply stored
          apply others
          intro push member
          constructor
          · intro same
            exact unused ⟨push, member, .inl same⟩
          · intro same
            exact unused ⟨push, member, .inr same⟩
      · intro push member
        rw [permuted.count_eq]
        exact List.count_eq_one_of_mem nodup (List.mem_map_of_mem member)

end

/-! ## Portuguese as spoken in Brazil -/

theorem product_letters : ∀ char ∈ "Product".toList, char.isAlpha := by simp

theorem one_digits : ∀ char ∈ "1".toList, char.isDigit := by simp

theorem product_typed : "Product" ≠ "" := by simp

def firstProduct : Gid := ⟨"Product", "1", product_letters, one_digits, product_typed⟩

/-- Nothing is pushed. -/
def noOrders (digest : Digest) : SetOrders (payloadPush digest []) :=
  ⟨[], [], enumerates_dedup [], enumerates_dedup []⟩

theorem brazilian_query_malformed :
    targetAlias (firstProduct, brazilian) = "Product_1_pt-BR" ∧
      ¬ WellFormed id [] [(firstProduct, brazilian)] (noOrders id) := by
  have named : targetAlias (firstProduct, brazilian) = "Product_1_pt-BR" := by
    apply String.toList_injective
    rw [targetAlias, toList_formatGidKey]
    simp [firstProduct, brazilian, Locale.code]
  refine ⟨named, ?_⟩
  intro wellFormed
  have name := wellFormed.names (firstProduct, brazilian) (List.mem_singleton_self _)
  have noRegion : brazilian.region = none := (isName_formatGidKey_iff _ _).mp name
  cases noRegion

end Translation
end OdooConnector
