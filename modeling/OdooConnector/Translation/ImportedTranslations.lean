import OdooConnector.Translation.LangMapping

/-!
# Where imported translations land

Each multi-language value is traced through the conversion, the sorting of its texts and the writes
of the record. Its texts land in their languages unless a text in an unmapped language of the store
is written as English or no language of the value has a mapping.
-/

namespace OdooConnector
namespace Translation

/-! ## What is delivered -/

/-- The texts of a value with the languages they are mapped to. -/
def deliveries (codes : Dict String (Option String)) (value : ExternalValue) :
    List (Option String × String) :=
  value.translations.filterMap fun translation =>
    (codes.get? translation.id).map fun language => (language, translation.value)

/-- The text delivered for a language; `none` stands for the unmapped languages of the store. -/
def delivered (codes : Dict String (Option String)) (value : ExternalValue)
    (language : Option String) : Option String :=
  Dict.lastValue Prod.fst (fun entry => some entry.2) (deliveries codes value) language

section

variable (contextLang shopLang : String) (texts : Option String → Option String)

/-- The text for the integration language, else the one for the language of the shop. -/
def baseValue : Option String := (texts (some contextLang)).or (texts (some shopLang))

/-- The text for another language, or the base value when it is empty. -/
def translationIn (language : Option String) : Option String :=
  if language = some contextLang then none
  else (texts language).bind fun text =>
    if text = "" then baseValue contextLang shopLang texts else some text

/-- The value a field is to have in a language. -/
def expected (translationsOnly : Bool) (old : String → String) (language : String) : String :=
  if language = contextLang then
    if translationsOnly then old language
    else (baseValue contextLang shopLang texts).getD (old language)
  else (translationIn contextLang shopLang texts (some language)).getD (old language)

end

/-! ## Sorting -/

section

variable (contextLang shopLang : String)

/-- The texts of one field that are no base value are added to the translations. -/
theorem foldl_put (field : String) (sorted : SortedValues)
    (entries : List (Option String × String)) :
    entries.foldl (SortedValues.put contextLang field) sorted =
      { nonTranslatableFields :=
          Dict.writeAll (fun _ => field)
            (fun entry => if some contextLang = entry.1 then some (.text entry.2) else none)
            sorted.nonTranslatableFields entries
        translations :=
          Dict.updateAll Prod.fst (fun entry data => (data.getD ∅).update field fun _ => entry.2)
            sorted.translations (entries.filter fun entry => some contextLang ≠ entry.1) } := by
  induction entries generalizing sorted with
  | nil => rfl
  | cons entry entries induction =>
      rw [List.foldl_cons, induction, SortedValues.put]
      by_cases same : some contextLang = entry.1
      · simp [same, Dict.writeAll]
      · simp [same, Dict.writeAll, Dict.updateAll]

variable {contextLang shopLang} {sorted : SortedValues} {field : String}
  {texts : Dict (Option String) String}

theorem get?_putTexts (sorted : SortedValues) (field : String) (texts : Dict (Option String) String)
    (other : String) :
    (texts.entries.foldl (SortedValues.put contextLang field) sorted).nonTranslatableFields.get?
        other =
      if other = field then
        ((texts.get? (some contextLang)).map OdooValue.text).or
          (sorted.nonTranslatableFields.get? field)
      else sorted.nonTranslatableFields.get? other := by
  rw [foldl_put, Dict.get?_writeAll]
  by_cases same : other = field
  · have base : Dict.lastValue (fun _ => field)
        (fun entry => if some contextLang = entry.1 then some (OdooValue.text entry.2) else none)
        texts.entries field =
      (texts.get? (some contextLang)).map OdooValue.text := by
      have one := Dict.lastValue_fst (fun entry => some (OdooValue.text entry.2)) texts
        (some contextLang)
      refine Eq.trans ?_ (one.trans (Option.map_eq_bind).symm)
      simp [Dict.lastValue, eq_comm]
    rw [if_pos same, same, base]
  · have nothing : Dict.lastValue (fun _ => field)
        (fun entry => if some contextLang = entry.1 then some (OdooValue.text entry.2) else none)
        texts.entries other = none := by
      rw [Dict.lastValue_eq_none_iff]
      intro entry _ equal
      exact absurd equal.symm same
    rw [if_neg same, nothing, Option.none_or]

theorem entry_putTexts (sorted : SortedValues) (field : String)
    (texts : Dict (Option String) String) (language : Option String) (other : String) :
    (texts.entries.foldl (SortedValues.put contextLang field) sorted).translations.entry language
        other =
      if other = field then
        ((texts.without (some contextLang)).get? language).or
          (sorted.translations.entry language field)
      else sorted.translations.entry language other := by
  have put := Dict.get?_updateAll_entries sorted.translations (texts.without (some contextLang))
    (fun text data => (data.getD ∅).update field fun _ => text) language
  rw [foldl_put, Dict.entry]
  refine (congrArg (Option.bind · fun data => data.get? other) put).trans ?_
  rw [Dict.entry, Dict.entry]
  cases (texts.without (some contextLang)).get? language with
  | none => by_cases same : other = field <;> simp [same]
  | some text =>
      rw [Option.elim_some, Option.bind_some, Dict.get?_update]
      by_cases same : other = field
      · simp [same]
      · rw [if_neg same, if_neg same]
        cases sorted.translations.get? language <;> rfl

theorem find?_putTexts (keep : Option String → Bool) (sorted : SortedValues) (field : String)
    (texts : Dict (Option String) String) :
    (texts.entries.foldl (SortedValues.put contextLang field) sorted).translations.keys.find? keep =
      (sorted.translations.keys.find? keep).or
        ((texts.without (some contextLang)).keys.find? keep) := by
  rw [foldl_put]
  exact Dict.find?_keys_updateAll keep Prod.fst
    (fun entry data => (data.getD ∅).update field fun _ => entry.2) sorted.translations
    (texts.without (some contextLang)).entries

/-- Nothing is known of the field yet. -/
def SortedValues.Lacks (sorted : SortedValues) (field : String) : Prop :=
  sorted.nonTranslatableFields.get? field = none ∧
    ∀ language, sorted.translations.entry language field = none

theorem putShopDefault_translations (field : String) (sorted : SortedValues) :
    (sorted.putShopDefault shopLang field).translations = sorted.translations := by
  rw [SortedValues.putShopDefault]
  split <;> rfl

theorem get?_putShopDefault (field other : String) (sorted : SortedValues) :
    (sorted.putShopDefault shopLang field).nonTranslatableFields.get? other =
      if other = field then
        (sorted.nonTranslatableFields.get? field).or
          ((sorted.translations.entry (some shopLang) field).map OdooValue.text)
      else sorted.nonTranslatableFields.get? other := by
  rw [SortedValues.putShopDefault]
  by_cases same : other = field
  · cases base : sorted.nonTranslatableFields.get? field with
    | some value => simp [same, base]
    | none =>
        cases shop : sorted.translations.entry (some shopLang) field with
        | none => simp [same, base]
        | some text => simp [same, Dict.get?_update]
  · rw [if_neg same]
    split
    · rw [Dict.get?_update, if_neg same]
    · rfl

theorem entry_sortField (lacks : sorted.Lacks field) (language : Option String) (other : String) :
    (sorted.sortField contextLang shopLang (field, texts)).translations.entry language other =
      if other = field then (texts.without (some contextLang)).get? language
      else sorted.translations.entry language other := by
  rw [SortedValues.sortField, putShopDefault_translations, entry_putTexts, lacks.2, Option.or_none]

theorem get?_sortField (lacks : sorted.Lacks field) (other : String) :
    (sorted.sortField contextLang shopLang (field, texts)).nonTranslatableFields.get? other =
      if other = field then (baseValue contextLang shopLang texts.get?).map OdooValue.text
      else sorted.nonTranslatableFields.get? other := by
  rw [SortedValues.sortField, get?_putShopDefault, get?_putTexts, get?_putTexts, entry_putTexts,
    lacks.1, lacks.2, Option.or_none, Option.or_none, if_pos rfl, if_pos rfl, Dict.get?_without]
  by_cases same : other = field
  · rw [if_pos same, if_pos same, baseValue]
    by_cases shop : some shopLang = some contextLang
    · rw [if_pos shop, shop]
      cases texts.get? (some contextLang) <;> rfl
    · rw [if_neg shop]
      cases texts.get? (some contextLang) <;> rfl
  · rw [if_neg same, if_neg same, if_neg same]

theorem find?_sortField (keep : Option String → Bool) :
    (sorted.sortField contextLang shopLang (field, texts)).translations.keys.find? keep =
      (sorted.translations.keys.find? keep).or
        ((texts.without (some contextLang)).keys.find? keep) := by
  rw [SortedValues.sortField, putShopDefault_translations, find?_putTexts]

theorem lacks_sortField (lacks : sorted.Lacks field) {other : String}
    (lacksOther : sorted.Lacks other) (different : other ≠ field) :
    (sorted.sortField contextLang shopLang (field, texts)).Lacks other := by
  constructor
  · rw [get?_sortField lacks, if_neg different]
    exact lacksOther.1
  · intro language
    rw [entry_sortField lacks, if_neg different]
    exact lacksOther.2 language

/-- What one pass over all fields leaves for each of them. -/
structure SortedValues.Passed (contextLang shopLang : String) (sorted result : SortedValues)
    (fields : Dict String (Dict (Option String) String)) : Prop where
  base (other : String) : result.nonTranslatableFields.get? other =
    (fields.get? other).elim (sorted.nonTranslatableFields.get? other) fun texts =>
      (baseValue contextLang shopLang texts.get?).map OdooValue.text
  text (language : Option String) (other : String) : result.translations.entry language other =
    (fields.get? other).elim (sorted.translations.entry language other) fun texts =>
      (texts.without (some contextLang)).get? language
  order (keep : Option String → Bool) : result.translations.keys.find? keep =
    (sorted.translations.keys.find? keep).or
      ((fields.values.flatMap fun texts => (texts.without (some contextLang)).keys).find? keep)

theorem passed_foldl (fields : Dict String (Dict (Option String) String))
    (lacks : ∀ field ∈ fields.keys, sorted.Lacks field) :
    sorted.Passed contextLang shopLang
      (fields.entries.foldl (SortedValues.sortField contextLang shopLang) sorted) fields := by
  obtain ⟨entries, nodup⟩ := fields
  induction entries generalizing sorted with
  | nil =>
      exact
        { base := fun _ => rfl
          text := fun _ _ => rfl
          order := fun _ => Option.or_none.symm }
  | cons head tail induction =>
      have first : sorted.Lacks head.1 := lacks head.1 List.mem_cons_self
      have others (field : String) (member : field ∈ tail.map Prod.fst) :
          (sorted.sortField contextLang shopLang head).Lacks field := by
        apply lacks_sortField first (lacks field (List.mem_cons_of_mem head.1 member))
        intro same
        exact (List.nodup_cons.mp nodup).1 (same ▸ member)
      have rest := induction (List.nodup_cons.mp nodup).2 others
      constructor
      · intro other
        rw [Dict.get?_cons]
        refine (rest.base other).trans ?_
        rw [get?_sortField first]
        by_cases same : head.1 = other
        · rw [Dict.get?_tail_head nodup same, if_pos same, if_pos same.symm]
          rfl
        · rw [if_neg same, if_neg (Ne.symm same)]
      · intro language other
        rw [Dict.get?_cons]
        refine (rest.text language other).trans ?_
        rw [entry_sortField first]
        by_cases same : head.1 = other
        · rw [Dict.get?_tail_head nodup same, if_pos same, if_pos same.symm]
          rfl
        · rw [if_neg same, if_neg (Ne.symm same)]
      · intro keep
        refine (rest.order keep).trans ?_
        rw [find?_sortField, Option.or_assoc, ← List.find?_append]
        rfl

theorem passed_sortValues (vals : Dict String OdooValue) :
    SortedValues.Passed contextLang shopLang ⟨vals.filterMapValues OdooValue.plain?, ∅⟩
      (sortValues contextLang shopLang vals) (vals.filterMapValues OdooValue.translated?) := by
  apply passed_foldl
  intro field member
  rw [Dict.mem_keys_iff, Dict.get?_filterMapValues] at member
  refine ⟨?_, fun _ => rfl⟩
  rw [Dict.get?_filterMapValues]
  cases stored : vals.get? field with
  | none => rfl
  | some value =>
      rw [stored, Option.bind_some] at member
      obtain ⟨texts, translated⟩ := Option.ne_none_iff_exists'.mp member
      rw [Option.bind_some, OdooValue.plain?, translated]

end

/-! ## Writing -/

section

variable (coerce : OdooValue → String) (contextLang shopLang : String)

theorem get?_langVals (base : Dict String OdooValue) (data : Dict String String) (field : String) :
    (langVals base data).get? field =
      (data.get? field).bind fun text => langVal base (field, text) := by
  rw [langVals, Dict.get?_writeAll, Dict.get?_empty, Option.or_none]
  exact Dict.lastValue_fst (langVal base) data field

/-- What the writes of the translations leave: the last value for the language. -/
theorem foldl_write (base : Dict String OdooValue) (record : Record)
    (entries : List (Option String × Dict String String)) (field language : String) :
    entries.foldl (fun record entry => record.write coerce entry.1 (langVals base entry.2)) record
        field language =
      (Dict.lastValue (fun entry => entry.1.getD "en_US")
        (fun entry => ((langVals base entry.2).get? field).map (OdooValue.stored coerce)) entries
        language).getD (record field language) := by
  induction entries using List.reverseRecOn with
  | nil => rfl
  | append_singleton entries last induction =>
      rw [List.foldl_append, Dict.lastValue_concat, List.foldl_cons, List.foldl_nil, Record.write,
        induction]
      by_cases same : last.1.getD "en_US" = language
      · rw [if_pos same, if_pos same]
        cases (langVals base last.2).get? field <;> rfl
      · rw [if_neg same, if_neg same, Option.none_or]

/-- The value that the translations of a language write to a field. -/
def SortedValues.written (sorted : SortedValues) (field : String) (language : Option String) :
    Option String :=
  ((sorted.translations.entry language field).bind fun text =>
    langVal sorted.nonTranslatableFields (field, text)).map (OdooValue.stored coerce)

variable (sorted : SortedValues) (record : Record) (field : String)

theorem bind_langVals (language : Option String) :
    ((sorted.translations.get? language).bind fun data =>
      ((langVals sorted.nonTranslatableFields data).get? field).map (OdooValue.stored coerce)) =
      sorted.written coerce field language := by
  rw [SortedValues.written, Dict.entry]
  cases sorted.translations.get? language with
  | none => rfl
  | some data => rw [Option.bind_some, Option.bind_some, get?_langVals]

/-- The record after the translations of all languages. -/
def SortedValues.writeTranslations : Record :=
  sorted.translations.entries.foldl
    (fun record entry =>
      record.write coerce entry.1 (langVals sorted.nonTranslatableFields entry.2)) record

theorem getD_eq_iff {language : String} (other : language ≠ "en_US") (key : Option String) :
    key.getD "en_US" = language ↔ key = some language := by
  cases key with
  | none => simp [Ne.symm other]
  | some code => simp

/-- The languages whose texts are written as English. -/
def isEnglish (language : Option String) : Bool := language = none ∨ language = some "en_US"

theorem getD_english_iff (key : Option String) :
    key.getD "en_US" = "en_US" ↔ key = none ∨ key = some "en_US" := by
  cases key with
  | none => simp
  | some code => simp

theorem writeTranslations_other {language : String} (other : language ≠ "en_US") :
    sorted.writeTranslations coerce record field language =
      (sorted.written coerce field (some language)).getD (record field language) := by
  rw [SortedValues.writeTranslations, foldl_write, ← bind_langVals]
  congr 1
  exact Dict.lastValue_of_one
    (fun entry => ((langVals sorted.nonTranslatableFields entry.2).get? field).map
      (OdooValue.stored coerce)) sorted.translations fun key _ => getD_eq_iff other key

/-- English comes last, unless it is the first of the two. -/
theorem writeTranslations_english
    (order : sorted.translations.keys.find? isEnglish ≠ some (some "en_US")) :
    sorted.writeTranslations coerce record field "en_US" =
      ((sorted.written coerce field (some "en_US")).or (sorted.written coerce field none)).getD
        (record field "en_US") := by
  rw [SortedValues.writeTranslations, foldl_write, ← bind_langVals, ← bind_langVals]
  congr 1
  exact Dict.lastValue_of_two
    (fun data => ((langVals sorted.nonTranslatableFields data).get? field).map
      (OdooValue.stored coerce)) sorted.translations
      (fun key _ => getD_english_iff key) order

/-- The unmapped languages come last, unless they are the first of the two. -/
theorem writeTranslations_unmapped
    (order : sorted.translations.keys.find? isEnglish ≠ some none) :
    sorted.writeTranslations coerce record field "en_US" =
      ((sorted.written coerce field none).or (sorted.written coerce field (some "en_US"))).getD
        (record field "en_US") := by
  rw [SortedValues.writeTranslations, foldl_write, ← bind_langVals, ← bind_langVals]
  congr 1
  apply Dict.lastValue_of_two
    (fun data => ((langVals sorted.nonTranslatableFields data).get? field).map
      (OdooValue.stored coerce)) sorted.translations
      (fun key _ => (getD_english_iff key).trans Or.comm)
  have either : (fun key : Option String => decide (key = some "en_US" ∨ key = none)) =
      isEnglish := by
    funext key
    exact decide_eq_decide.mpr Or.comm
  rwa [either]

/-- Without an unmapped language each language gets its own text. -/
theorem writeTranslations_mapped (absent : sorted.written coerce field none = none)
    (language : String) :
    sorted.writeTranslations coerce record field language =
      (sorted.written coerce field (some language)).getD (record field language) := by
  by_cases english : language = "en_US"
  · rw [english]
    by_cases order : sorted.translations.keys.find? isEnglish = some (some "en_US")
    · rw [writeTranslations_unmapped coerce sorted record field (by simp [order]), absent,
        Option.none_or]
    · rw [writeTranslations_english coerce sorted record field order, absent, Option.or_none]
  · exact writeTranslations_other coerce sorted record field english

/-- Without a text for English the unmapped languages write it. -/
theorem writeTranslations_english_absent
    (absent : sorted.written coerce field (some "en_US") = none) :
    sorted.writeTranslations coerce record field "en_US" =
      (sorted.written coerce field none).getD (record field "en_US") := by
  by_cases order : sorted.translations.keys.find? isEnglish = some (some "en_US")
  · rw [writeTranslations_unmapped coerce sorted record field (by simp [order]), absent,
      Option.or_none]
  · rw [writeTranslations_english coerce sorted record field order, absent, Option.none_or]

end

/-! ## Conversion -/

section

variable (mappings : List LangMapping)

theorem foldl_convertTranslation (codes : Dict String (Option String))
    (result : Dict (Option String) String) (translations : List ExternalTranslation) :
    translations.foldl (convertTranslation codes) result =
      Dict.writeAll Prod.fst (fun entry => some entry.2) result
        (translations.filterMap fun translation =>
          (codes.get? translation.id).map fun language => (language, translation.value)) := by
  induction translations generalizing result with
  | nil => rfl
  | cons translation translations induction =>
      rw [List.foldl_cons, induction, convertTranslation, List.filterMap_cons]
      cases codes.get? translation.id <;> rfl

/-- The texts that a value is converted to. -/
def convertedTexts (codes : Dict String (Option String)) (value : ExternalValue) :
    Dict (Option String) String :=
  Dict.writeAll Prod.fst (fun entry => some entry.2) ∅ (deliveries codes value)

theorem convert_translated {value : ExternalValue} (translated : value.isTranslatedValue = true) :
    convertExternalTranslations mappings value =
      .languages (convertedTexts (languageCodes mappings) value) := by
  cases value with
  | text value => cases translated
  | single translation =>
      exact congrArg OdooValue.languages
        (foldl_convertTranslation (languageCodes mappings) ∅ [translation])
  | list translations =>
      cases translations with
      | nil => cases translated
      | cons first rest =>
          exact congrArg OdooValue.languages
            (foldl_convertTranslation (languageCodes mappings) ∅ (first :: rest))

theorem get?_convertedTexts (codes : Dict String (Option String)) (value : ExternalValue) :
    (convertedTexts codes value).get? = delivered codes value := by
  funext language
  rw [convertedTexts, Dict.get?_writeAll, Dict.get?_empty, Option.or_none, delivered]

theorem find?_convertedTexts (keep : Option String → Bool) (codes : Dict String (Option String))
    (value : ExternalValue) :
    (convertedTexts codes value).keys.find? keep =
      ((deliveries codes value).map Prod.fst).find? keep := by
  rw [convertedTexts, Dict.find?_keys_writeAll]
  simp [Dict.keys, EmptyCollection.emptyCollection, Dict.empty]

theorem convertedTexts_isEmpty (codes : Dict String (Option String)) (value : ExternalValue) :
    (convertedTexts codes value).entries.isEmpty = (deliveries codes value).isEmpty := by
  have any := find?_convertedTexts (fun _ => true) codes value
  rw [Dict.keys] at any
  cases texts : (convertedTexts codes value).entries <;>
    cases list : deliveries codes value <;> simp_all

theorem translated?_convert (value : ExternalValue) :
    (convertExternalTranslations mappings value).translated? =
      if (deliveries (languageCodes mappings) value).isEmpty then none
      else some (convertedTexts (languageCodes mappings) value) := by
  cases translated : value.isTranslatedValue with
  | true =>
      rw [convert_translated mappings translated, OdooValue.translated?, convertedTexts_isEmpty]
  | false =>
      cases value with
      | text value => rfl
      | single translation => cases translated
      | list translations =>
          cases translations with
          | nil => rfl
          | cons first rest => cases translated

/-- The languages are gone through in the order in which they are first delivered. -/
theorem find?_languages {contextLang : String} {keep : Option String → Bool}
    (others : keep (some contextLang) = false) (values : List ExternalValue) :
    ((values.filterMap fun value =>
        (convertExternalTranslations mappings value).translated?).flatMap fun texts =>
          (texts.without (some contextLang)).keys).find? keep =
      (values.flatMap fun value =>
        (deliveries (languageCodes mappings) value).map Prod.fst).find? keep := by
  induction values with
  | nil => rfl
  | cons value values induction =>
      rw [List.flatMap_cons, List.find?_append, ← induction, List.filterMap_cons,
        translated?_convert]
      cases empty : (deliveries (languageCodes mappings) value).isEmpty with
      | true =>
          rw [List.isEmpty_iff.mp empty]
          rfl
      | false =>
          rw [← find?_convertedTexts, ← Dict.find?_keys_without others, ← List.find?_append]
          rfl

end

/-! ## The result -/

section

variable (mappings : List LangMapping) (contextLang shopLang : String)
  (coerce : OdooValue → String) (translationsOnly : Bool) (record : Record)
  (vals : Dict String ExternalValue)

/-- The values of the store are converted and written to a record. -/
def importTranslations (create : Dict String OdooValue → Record) : Record :=
  createOrUpdateWithTranslations contextLang shopLang coerce create (some record)
    (vals.mapValues (convertExternalTranslations mappings)) translationsOnly

/-- Every multi-language value has its texts in their languages. -/
def Landed (result : Record) : Prop :=
  ∀ field value, vals.get? field = some value → value.isTranslatedValue = true →
    ∀ language, result field language =
      expected contextLang shopLang (delivered (languageCodes mappings) value) translationsOnly
        (record field) language

/-- Of the languages that are written as English an unmapped one is delivered first. -/
def UnmappedFirst : Prop :=
  (vals.values.flatMap fun value =>
    (deliveries (languageCodes mappings) value).map Prod.fst).find? isEnglish = some none

/-- When the texts of a value land in their languages. -/
structure Lands (field : String) (value : ExternalValue) : Prop where
  /-- A language of the value has a mapping, or nothing is written in its place. -/
  known : deliveries (languageCodes mappings) value ≠ [] ∨ translationsOnly = true ∨
    coerce (.languages ∅) = record field contextLang
  /-- What an unmapped language writes as English is the text there, or is replaced by it. -/
  unmapped : ∀ text,
    translationIn contextLang shopLang (delivered (languageCodes mappings) value) none =
        some text →
      text = expected contextLang shopLang (delivered (languageCodes mappings) value)
          translationsOnly (record field) "en_US" ∨
        translationIn contextLang shopLang (delivered (languageCodes mappings) value)
            (some "en_US") ≠ none ∧
          UnmappedFirst mappings vals

/-- The sorted values of the store. -/
def sortedValues : SortedValues :=
  sortValues contextLang shopLang (vals.mapValues (convertExternalTranslations mappings))

/-- The record with its base values. -/
def baseRecord : Record :=
  if translationsOnly then record
  else record.write coerce (some contextLang)
    (sortedValues mappings contextLang shopLang vals).nonTranslatableFields

theorem importTranslations_eq (create : Dict String OdooValue → Record) :
    importTranslations mappings contextLang shopLang coerce translationsOnly record vals create =
      (sortedValues mappings contextLang shopLang vals).writeTranslations coerce
        (baseRecord mappings contextLang shopLang coerce translationsOnly record vals) := rfl

variable {field : String} {value : ExternalValue}

theorem get?_fields (stored : vals.get? field = some value) :
    ((vals.mapValues (convertExternalTranslations mappings)).filterMapValues
        OdooValue.translated?).get? field =
      if (deliveries (languageCodes mappings) value).isEmpty then none
      else some (convertedTexts (languageCodes mappings) value) := by
  rw [Dict.get?_filterMapValues, Dict.get?_mapValues, stored]
  exact translated?_convert mappings value

/-- The base value of a field, or the dictionary without languages that stands for it. -/
theorem get?_sortedValues (stored : vals.get? field = some value)
    (translated : value.isTranslatedValue = true) :
    (sortedValues mappings contextLang shopLang vals).nonTranslatableFields.get? field =
      if (deliveries (languageCodes mappings) value).isEmpty then some (.languages ∅)
      else (baseValue contextLang shopLang (delivered (languageCodes mappings) value)).map
        OdooValue.text := by
  have passed := @passed_sortValues contextLang shopLang
    (vals.mapValues (convertExternalTranslations mappings))
  refine (passed.base field).trans ?_
  rw [get?_fields mappings vals stored]
  cases empty : (deliveries (languageCodes mappings) value).isEmpty with
  | true =>
      have nothing : convertedTexts (languageCodes mappings) value = ∅ := by
        rw [convertedTexts, List.isEmpty_iff.mp empty]
        rfl
      have plain := translated?_convert mappings value
      rw [if_pos empty] at plain
      rw [if_pos rfl, if_pos rfl, Option.elim_none, Dict.get?_filterMapValues, Dict.get?_mapValues,
        stored, Option.map_some, Option.bind_some, OdooValue.plain?, plain,
        convert_translated mappings translated, nothing]
  | false =>
      rw [if_neg Bool.false_ne_true, if_neg Bool.false_ne_true, Option.elim_some,
        get?_convertedTexts]

theorem written_sortedValues (stored : vals.get? field = some value)
    (translated : value.isTranslatedValue = true) (language : Option String) :
    (sortedValues mappings contextLang shopLang vals).written coerce field language =
      translationIn contextLang shopLang (delivered (languageCodes mappings) value) language := by
  have passed := @passed_sortValues contextLang shopLang
    (vals.mapValues (convertExternalTranslations mappings))
  have text : (sortedValues mappings contextLang shopLang vals).translations.entry language field =
      _ := passed.text language field
  rw [SortedValues.written, text, get?_fields mappings vals stored, translationIn]
  cases empty : (deliveries (languageCodes mappings) value).isEmpty with
  | true =>
      have nothing : delivered (languageCodes mappings) value language = none := by
        rw [delivered, List.isEmpty_iff.mp empty]
        rfl
      rw [nothing]
      exact (ite_self none).symm
  | false =>
      have base := get?_sortedValues mappings contextLang shopLang vals stored translated
      rw [empty] at base
      rw [if_neg Bool.false_ne_true, Option.elim_some, Dict.get?_without, get?_convertedTexts]
      by_cases context : language = some contextLang
      · rw [if_pos context, if_pos context]
        rfl
      · rw [if_neg context, if_neg context]
        cases delivered (languageCodes mappings) value language with
        | none => rfl
        | some text =>
            rw [Option.bind_some, Option.bind_some, langVal, base, if_neg Bool.false_ne_true]
            split
            · cases baseValue contextLang shopLang
                (delivered (languageCodes mappings) value) <;> rfl
            · rfl

/-- The first of the languages that are written as English. -/
theorem find?_sortedValues (context : "en_US" ≠ contextLang) :
    (sortedValues mappings contextLang shopLang vals).translations.keys.find? isEnglish =
      (vals.values.flatMap fun value =>
        (deliveries (languageCodes mappings) value).map Prod.fst).find? isEnglish := by
  have passed := @passed_sortValues contextLang shopLang
    (vals.mapValues (convertExternalTranslations mappings))
  have other : isEnglish (some contextLang) = false := by
    simp [isEnglish, Ne.symm context]
  refine (passed.order isEnglish).trans ?_
  rw [Dict.values_filterMapValues, Dict.values_mapValues, List.filterMap_map,
    ← find?_languages mappings other]
  rfl

/-- What is written for the integration language alone. -/
theorem baseRecord_field (stored : vals.get? field = some value)
    (translated : value.isTranslatedValue = true)
    (known : deliveries (languageCodes mappings) value ≠ []) (language : String) :
    baseRecord mappings contextLang shopLang coerce translationsOnly record vals field language =
      if language = contextLang ∧ translationsOnly = false then
        (baseValue contextLang shopLang (delivered (languageCodes mappings) value)).getD
          (record field language)
      else record field language := by
  have base := get?_sortedValues mappings contextLang shopLang vals stored translated
  rw [if_neg fun empty => known (List.isEmpty_iff.mp empty)] at base
  cases translationsOnly with
  | true => simp [baseRecord]
  | false =>
      rw [baseRecord, if_neg Bool.false_ne_true, Record.write, base, Option.getD_some]
      by_cases context : contextLang = language
      · rw [if_pos context, if_pos ⟨context.symm, rfl⟩]
        cases baseValue contextLang shopLang (delivered (languageCodes mappings) value) <;> rfl
      · rw [if_neg context, if_neg fun both => context both.1.symm]

theorem expected_eq (texts : Option String → Option String) (old : String → String)
    (language : String) :
    expected contextLang shopLang texts translationsOnly old language =
      (translationIn contextLang shopLang texts (some language)).getD
        (if language = contextLang ∧ translationsOnly = false then
          (baseValue contextLang shopLang texts).getD (old language)
        else old language) := by
  by_cases context : language = contextLang
  · cases translationsOnly <;> simp [expected, translationIn, context]
  · simp [expected, context]

variable (create : Dict String OdooValue → Record)

/-- Without a delivery in an unmapped language. -/
theorem importTranslations_mapped (stored : vals.get? field = some value)
    (translated : value.isTranslatedValue = true)
    (absent : translationIn contextLang shopLang (delivered (languageCodes mappings) value) none =
      none) (language : String) :
    importTranslations mappings contextLang shopLang coerce translationsOnly record vals create
        field language =
      (translationIn contextLang shopLang (delivered (languageCodes mappings) value)
          (some language)).getD
        (baseRecord mappings contextLang shopLang coerce translationsOnly record vals field
          language) := by
  have written := written_sortedValues mappings contextLang shopLang coerce vals stored translated
  rw [importTranslations_eq,
    writeTranslations_mapped coerce _ _ field ((written none).trans absent), written]

theorem delivered_unknown {codes : Dict String (Option String)}
    (unknown : deliveries codes value = []) (language : Option String) :
    delivered codes value language = none := by
  rw [delivered, unknown]
  rfl

theorem translationIn_unknown {codes : Dict String (Option String)}
    (unknown : deliveries codes value = []) (language : Option String) :
    translationIn contextLang shopLang (delivered codes value) language = none := by
  rw [translationIn, delivered_unknown unknown]
  exact ite_self none

theorem expected_unknown {codes : Dict String (Option String)}
    (unknown : deliveries codes value = []) (old : String → String) (language : String) :
    expected contextLang shopLang (delivered codes value) translationsOnly old language =
      old language := by
  rw [expected_eq, translationIn_unknown contextLang shopLang unknown, baseValue,
    delivered_unknown unknown, delivered_unknown unknown]
  exact ite_self (old language)

/-- Where no language is known, the dictionary itself is written for the integration language. -/
theorem baseRecord_unknown (stored : vals.get? field = some value)
    (translated : value.isTranslatedValue = true)
    (unknown : deliveries (languageCodes mappings) value = []) (language : String) :
    baseRecord mappings contextLang shopLang coerce translationsOnly record vals field language =
      if language = contextLang ∧ translationsOnly = false then coerce (.languages ∅)
      else record field language := by
  have base := get?_sortedValues mappings contextLang shopLang vals stored translated
  rw [if_pos (List.isEmpty_iff.mpr unknown)] at base
  cases translationsOnly with
  | true => simp [baseRecord]
  | false =>
      rw [baseRecord, if_neg Bool.false_ne_true, Record.write, base, Option.getD_some]
      by_cases context : contextLang = language
      · rw [if_pos context, if_pos ⟨context.symm, rfl⟩]
        rfl
      · rw [if_neg context, if_neg fun both => context both.1.symm]

/-- A value of which no language has a mapping. -/
theorem landed_unknown_iff (stored : vals.get? field = some value)
    (translated : value.isTranslatedValue = true)
    (unknown : deliveries (languageCodes mappings) value = []) :
    (∀ language, importTranslations mappings contextLang shopLang coerce translationsOnly record
        vals create field language =
      expected contextLang shopLang (delivered (languageCodes mappings) value) translationsOnly
        (record field) language) ↔
      translationsOnly = true ∨ coerce (.languages ∅) = record field contextLang := by
  have untranslated := translationIn_unknown contextLang shopLang unknown
  have result (language : String) :
      importTranslations mappings contextLang shopLang coerce translationsOnly record vals create
          field language =
        if language = contextLang ∧ translationsOnly = false then coerce (.languages ∅)
        else record field language := by
    rw [importTranslations_mapped mappings contextLang shopLang coerce translationsOnly record vals
      create stored translated (untranslated none), untranslated, Option.getD_none,
      baseRecord_unknown mappings contextLang shopLang coerce translationsOnly record vals stored
        translated unknown]
  constructor
  · intro landed
    have context := landed contextLang
    rw [result, expected_unknown contextLang shopLang translationsOnly unknown] at context
    cases translationsOnly with
    | true => exact Or.inl rfl
    | false =>
        rw [if_pos ⟨rfl, rfl⟩] at context
        exact Or.inr context
  · intro same language
    rw [result, expected_unknown contextLang shopLang translationsOnly unknown]
    split
    · rename_i context
      rw [same.resolve_left (by simp [context.2]), context.1]
    · rfl

/-- Other languages than English get their own text in any case. -/
theorem importTranslations_other (stored : vals.get? field = some value)
    (translated : value.isTranslatedValue = true)
    (known : deliveries (languageCodes mappings) value ≠ []) {language : String}
    (other : language ≠ "en_US") :
    importTranslations mappings contextLang shopLang coerce translationsOnly record vals create
        field language =
      expected contextLang shopLang (delivered (languageCodes mappings) value) translationsOnly
        (record field) language := by
  rw [importTranslations_eq, writeTranslations_other coerce _ _ field other,
    written_sortedValues mappings contextLang shopLang coerce vals stored translated,
    baseRecord_field mappings contextLang shopLang coerce translationsOnly record vals stored
      translated known, expected_eq]

/-- English has its own text or that of an unmapped language, whichever is written last. -/
theorem importTranslations_english_iff (stored : vals.get? field = some value)
    (translated : value.isTranslatedValue = true) {text : String}
    (unmapped : translationIn contextLang shopLang (delivered (languageCodes mappings) value) none =
      some text) :
    importTranslations mappings contextLang shopLang coerce translationsOnly record vals create
        field "en_US" =
      expected contextLang shopLang (delivered (languageCodes mappings) value) translationsOnly
        (record field) "en_US" ↔
      text = expected contextLang shopLang (delivered (languageCodes mappings) value)
          translationsOnly (record field) "en_US" ∨
        translationIn contextLang shopLang (delivered (languageCodes mappings) value)
            (some "en_US") ≠ none ∧
          UnmappedFirst mappings vals := by
  have written := written_sortedValues mappings contextLang shopLang coerce vals stored translated
  rw [importTranslations_eq]
  cases own : translationIn contextLang shopLang (delivered (languageCodes mappings) value)
      (some "en_US") with
  | none =>
      rw [writeTranslations_english_absent coerce _ _ field ((written _).trans own), written,
        unmapped]
      simp
  | some ownText =>
      have landed : expected contextLang shopLang (delivered (languageCodes mappings) value)
          translationsOnly (record field) "en_US" = ownText := by
        rw [expected_eq, own, Option.getD_some]
      have context : "en_US" ≠ contextLang := by
        intro same
        rw [translationIn, if_pos (congrArg some same)] at own
        cases own
      have order := find?_sortedValues mappings contextLang shopLang vals context
      by_cases first : UnmappedFirst mappings vals
      · rw [writeTranslations_english coerce _ _ field (by rw [order, first]; simp), written, own,
          landed]
        simp [first]
      · rw [writeTranslations_unmapped coerce _ _ field (by rw [order]; exact first), written,
          unmapped]
        simp [first]

/-- A value of which some language has a mapping. -/
theorem landed_known_iff (stored : vals.get? field = some value)
    (translated : value.isTranslatedValue = true)
    (known : deliveries (languageCodes mappings) value ≠ []) :
    (∀ language, importTranslations mappings contextLang shopLang coerce translationsOnly record
        vals create field language =
      expected contextLang shopLang (delivered (languageCodes mappings) value) translationsOnly
        (record field) language) ↔
      ∀ text,
        translationIn contextLang shopLang (delivered (languageCodes mappings) value) none =
            some text →
          text = expected contextLang shopLang (delivered (languageCodes mappings) value)
              translationsOnly (record field) "en_US" ∨
            translationIn contextLang shopLang (delivered (languageCodes mappings) value)
                (some "en_US") ≠ none ∧
              UnmappedFirst mappings vals := by
  constructor
  · intro landed text unmapped
    exact (importTranslations_english_iff mappings contextLang shopLang coerce translationsOnly
      record vals create stored translated unmapped).mp (landed "en_US")
  · intro allowed language
    cases unmapped : translationIn contextLang shopLang
        (delivered (languageCodes mappings) value) none with
    | none =>
        rw [importTranslations_mapped mappings contextLang shopLang coerce translationsOnly record
          vals create stored translated unmapped, expected_eq,
          baseRecord_field mappings contextLang shopLang coerce translationsOnly record vals stored
            translated known]
    | some text =>
        by_cases english : language = "en_US"
        · rw [english]
          exact (importTranslations_english_iff mappings contextLang shopLang coerce
            translationsOnly record vals create stored translated unmapped).mpr
              (allowed text unmapped)
        · exact importTranslations_other mappings contextLang shopLang coerce translationsOnly record
            vals create stored translated known english

/-- Imported translations land in their languages exactly when every value has a language that is
mapped, and no text in an unmapped language stays as the English one. -/
theorem imported_landed_iff :
    Landed mappings contextLang shopLang translationsOnly record vals
        (importTranslations mappings contextLang shopLang coerce translationsOnly record vals
          create) ↔
      ∀ field value, vals.get? field = some value → value.isTranslatedValue = true →
        Lands mappings contextLang shopLang coerce translationsOnly record vals field value := by
  rw [Landed]
  refine forall_congr' fun field => forall_congr' fun value => forall_congr' fun stored =>
    forall_congr' fun translated => ?_
  by_cases unknown : deliveries (languageCodes mappings) value = []
  · rw [landed_unknown_iff mappings contextLang shopLang coerce translationsOnly record vals create
      stored translated unknown]
    constructor
    · intro kept
      refine ⟨Or.inr kept, ?_⟩
      intro text written
      rw [translationIn, delivered, unknown] at written
      exact absurd written (by simp [Dict.lastValue])
    · intro lands
      exact lands.known.resolve_left fun known => known unknown
  · rw [landed_known_iff mappings contextLang shopLang coerce translationsOnly record vals create
      stored translated unknown]
    constructor
    · intro landed
      exact ⟨Or.inl unknown, landed⟩
    · intro lands
      exact lands.unmapped

end

/-! ## A store with an unmapped language -/

/-- The store delivers English and German, and German has no language in Odoo. -/
def englishStore : List LangMapping := [⟨"en", some "en_US"⟩, ⟨"de", none⟩]

def shirtName : Dict String ExternalValue :=
  Dict.single "name" (.list [⟨"en", "Shirt"⟩, ⟨"de", "Hemd"⟩])

/-- The German name becomes the English one. -/
theorem german_name_in_english :
    ¬Landed englishStore "en_US" "en_US" false (fun _ _ => "") shirtName
      (importTranslations englishStore "en_US" "en_US" (fun _ => "") false (fun _ _ => "")
        shirtName fun _ _ _ => "") := by
  intro landed
  have name := landed "name" _ rfl rfl "en_US"
  revert name
  decide

end Translation
end OdooConnector
