import Mathlib.Data.List.Nodup
import OdooConnector.Queue.JobArguments

/-!
# What a stored argument becomes

The decoder gives an argument back, unless it holds a dictionary that looks like a mark of the
encoder, a record that is not saved, an element, or a datetime whose text `dateutil` does not read.
-/

namespace OdooConnector.Queue.Framework

variable {Model Element : Type} {framework : Framework Model Element}

/-! ### The marks -/

theorem objectHook_of_not_marked {obj : List (String × Argument Model Element)}
    (unmarked : ¬ Marked obj) : framework.objectHook obj = some (.dict obj) := by
  rw [objectHook]
  cases found : obj.lookup "_type" with
  | none => rfl
  | some type =>
      have other : ∀ mark ∈ typeMarks, type.text? ≠ some mark := by
        intro mark listed same
        exact unmarked ⟨type, found, mark, listed, same⟩
      dsimp only
      rw [if_neg (other _ (by simp [typeMarks])), if_neg (other _ (by simp [typeMarks])),
        if_neg (other _ (by simp [typeMarks])), if_neg (other _ (by simp [typeMarks]))]

/-- What is made of a marked object is neither a dictionary nor a text. -/
theorem objectHook_cases {obj : List (String × Argument Model Element)}
    {value : Argument Model Element} (hooked : framework.objectHook obj = some value) :
    (¬ Marked obj ∧ value = .dict obj) ∨
      (Marked obj ∧ (∀ others, value ≠ .dict others) ∧ value.text? = none) := by
  by_cases marked : Marked obj
  · refine .inr ⟨marked, ?_⟩
    obtain ⟨type, found, mark, listed, same⟩ := marked
    rw [Option.mem_def] at found
    rw [objectHook, found] at hooked
    simp only [typeMarks, List.mem_cons, List.not_mem_nil, or_false] at listed
    -- Each mark has a branch of its own.
    rcases listed with rfl | rfl | rfl | rfl
    all_goals
      simp only [same, Option.some.injEq, String.reduceEq, reduceIte] at hooked
      obtain ⟨part, -, rfl⟩ := Option.map_eq_some_iff.mp hooked
      exact ⟨fun others => by simp, rfl⟩
  · rw [objectHook_of_not_marked marked] at hooked
    exact .inl ⟨marked, (Option.some.inj hooked).symm⟩

theorem decode_object {entries : List (String × Json)} {value : Argument Model Element}
    (decoded : framework.decode (.object entries) = some value) :
    ∃ obj, framework.decodeEntries entries = some obj ∧ framework.objectHook obj = some value := by
  rw [decode] at decoded
  exact Option.bind_eq_some_iff.mp decoded

theorem text_decode_encode {argument value : Argument Model Element}
    (decoded : framework.decode (framework.encode argument) = some value) :
    value.text? = argument.text? := by
  have object {entries : List (String × Json)}
      (decoded : framework.decode (.object entries) = some value) : value.text? = none := by
    obtain ⟨obj, -, hooked⟩ := decode_object decoded
    rcases objectHook_cases hooked with ⟨-, rfl⟩ | ⟨-, -, none⟩
    · rfl
    · exact none
  cases argument with
  | null | boolean | integer | float | text =>
      simp only [encode, decode, Option.some.injEq] at decoded
      rw [← decoded]
  | list items =>
      simp only [encode, decode, Option.map_eq_some_iff] at decoded
      obtain ⟨others, -, rfl⟩ := decoded
      rfl
  | dict entries => exact object decoded
  | recordset records => exact object decoded
  | datetime moment => exact object decoded
  | date date => exact object decoded
  | element element => exact object decoded

theorem decodeEntries_cons {key : String} {value : Json} {entries : List (String × Json)}
    {others : List (String × Argument Model Element)}
    (decoded : framework.decodeEntries ((key, value) :: entries) = some others) :
    ∃ first rest, framework.decode value = some first ∧
      framework.decodeEntries entries = some rest ∧ others = (key, first) :: rest := by
  rw [decodeEntries] at decoded
  obtain ⟨first, firstDecoded, decoded⟩ := Option.bind_eq_some_iff.mp decoded
  obtain ⟨rest, restDecoded, decoded⟩ := Option.bind_eq_some_iff.mp decoded
  exact ⟨first, rest, firstDecoded, restDecoded, (Option.some.inj decoded).symm⟩

theorem decodeItems_cons {item : Json} {items : List Json} {others : List (Argument Model Element)}
    (decoded : framework.decodeItems (item :: items) = some others) :
    ∃ first rest, framework.decode item = some first ∧
      framework.decodeItems items = some rest ∧ others = first :: rest := by
  rw [decodeItems] at decoded
  obtain ⟨first, firstDecoded, decoded⟩ := Option.bind_eq_some_iff.mp decoded
  obtain ⟨rest, restDecoded, decoded⟩ := Option.bind_eq_some_iff.mp decoded
  exact ⟨first, rest, firstDecoded, restDecoded, (Option.some.inj decoded).symm⟩

theorem keys_decodeEntries {entries others : List (String × Argument Model Element)}
    (decoded : framework.decodeEntries (framework.encodeEntries entries) = some others) :
    others.map Prod.fst = entries.map Prod.fst := by
  induction entries generalizing others with
  | nil =>
      rw [encodeEntries, decodeEntries, Option.some.injEq] at decoded
      rw [← decoded]
  | cons entry entries induction =>
      obtain ⟨first, rest, -, restDecoded, rfl⟩ := decodeEntries_cons decoded
      rw [List.map_cons, List.map_cons, induction restDecoded]

theorem lookup_decodeEntries (key : String)
    {entries others : List (String × Argument Model Element)}
    (decoded : framework.decodeEntries (framework.encodeEntries entries) = some others) :
    others.lookup key =
      (entries.lookup key).bind fun value => framework.decode (framework.encode value) := by
  induction entries generalizing others with
  | nil =>
      rw [encodeEntries, decodeEntries, Option.some.injEq] at decoded
      rw [← decoded]
      rfl
  | cons entry entries induction =>
      obtain ⟨first, rest, firstDecoded, restDecoded, rfl⟩ := decodeEntries_cons decoded
      rw [List.lookup_cons, List.lookup_cons]
      cases key == entry.1 with
      | true => exact firstDecoded.symm
      | false => exact induction restDecoded

theorem marked_decodeEntries {entries others : List (String × Argument Model Element)}
    (decoded : framework.decodeEntries (framework.encodeEntries entries) = some others) :
    Marked others ↔ Marked entries := by
  have same := lookup_decodeEntries "_type" decoded
  constructor
  · rintro ⟨type, found, mark, listed, named⟩
    rw [Option.mem_def, same] at found
    obtain ⟨value, valueFound, valueDecoded⟩ := Option.bind_eq_some_iff.mp found
    exact ⟨value, valueFound, mark, listed, text_decode_encode valueDecoded ▸ named⟩
  · rintro ⟨value, found, mark, listed, named⟩
    rw [Option.mem_def] at found
    rw [found, Option.bind_some] at same
    cases type : framework.decode (framework.encode value) with
    | none =>
        -- A text is decoded.
        cases value <;> simp [Argument.text?] at named
        simp [encode, decode] at type
    | some type' =>
        rw [type] at same
        exact ⟨type', same, mark, listed, (text_decode_encode type).trans named⟩

/-! ### Recordsets and dates -/

theorem decodeItems_integers (numbers : List ℤ) :
    framework.decodeItems (numbers.map .integer) = some (numbers.map .integer) := by
  induction numbers with
  | nil => rw [List.map_nil, List.map_nil, decodeItems]
  | cons number numbers induction =>
      rw [List.map_cons, List.map_cons, decodeItems, decode, induction]
      rfl

theorem decode_contextValue (value : ContextValue) :
    ∃ argument, framework.decode value.encode = some argument := by
  cases value with
  | null => exact ⟨.null, by rw [ContextValue.encode, decode]⟩
  | flag value => exact ⟨.boolean value, by rw [ContextValue.encode, decode]⟩
  | number value => exact ⟨.integer value, by rw [ContextValue.encode, decode]⟩
  | text value => exact ⟨.text value, by rw [ContextValue.encode, decode]⟩
  | numbers values =>
      exact ⟨.list (values.map .integer), by
        rw [ContextValue.encode, decode, decodeItems_integers, Option.map_some]⟩

theorem decodeEntries_context (entries : List (String × ContextValue)) :
    ∃ others, framework.decodeEntries (entries.map fun entry => (entry.1, entry.2.encode)) =
      some others ∧ others.map Prod.fst = entries.map Prod.fst := by
  induction entries with
  | nil => exact ⟨[], by rw [List.map_nil, decodeEntries], rfl⟩
  | cons entry entries induction =>
      obtain ⟨others, decoded, keys⟩ := induction
      obtain ⟨value, valueDecoded⟩ := @decode_contextValue _ _ framework entry.2
      refine ⟨(entry.1, value) :: others, ?_, ?_⟩
      · rw [List.map_cons, decodeEntries, valueDecoded, decoded]
        rfl
      · rw [List.map_cons, List.map_cons, keys]

/-- The context that jobs keep has no key `_type`. -/
theorem decode_context (records : Recordset Model) :
    ∃ others, framework.decode (.object
      (records.jobPrepareContextBeforeEnqueue.map fun entry => (entry.1, entry.2.encode))) =
        some (.dict others) := by
  obtain ⟨others, decoded, keys⟩ :=
    @decodeEntries_context _ _ framework records.jobPrepareContextBeforeEnqueue
  have absent : "_type" ∉ others.map Prod.fst := by
    rw [keys]
    intro listed
    obtain ⟨entry, member, same⟩ := List.mem_map.mp listed
    have kept := of_decide_eq_true (List.mem_filter.mp member).2
    rw [same] at kept
    simp [jobPrepareContextBeforeEnqueueKeys] at kept
  have none : others.lookup "_type" = none := by
    rw [List.lookup_eq_none_iff]
    intro entry member
    have other : entry.1 ≠ "_type" :=
      fun same => absent (List.mem_map.mpr ⟨entry, member, same⟩)
    simpa using other.symm
  refine ⟨others, ?_⟩
  rw [decode, decoded, Option.bind_some, objectHook, none]

/-- A recordset comes back with the database ids of its records, for the same user. -/
theorem decode_encodeRecordset (lawful : framework.Lawful) (records : Recordset Model) :
    ∃ context, framework.decode (framework.encodeRecordset records) =
      some (.recordset ⟨records.model, records.databaseIds.map .saved,
        ⟨records.env.uid, records.env.su, context⟩⟩) := by
  obtain ⟨others, contextDecoded⟩ := @decode_context _ _ framework records
  obtain ⟨⟨uid, su, context⟩, called, rfl, rfl⟩ :=
    lawful.call_user records.env.uid records.env.su
  have idsDecoded : framework.decode
      (.array (records.databaseIds.map fun id : ℕ => Json.integer id)) =
        some (.list (records.databaseIds.map fun id : ℕ => .integer id)) := by
    have integers := @decodeItems_integers _ _ framework
      (records.databaseIds.map fun id : ℕ => (id : ℤ))
    rw [List.map_map, List.map_map] at integers
    rw [decode]
    exact congrArg (Option.map Argument.list) integers
  have textDecoded (text : String) : framework.decode (.text text) = some (.text text) := by
    rw [decode]
  have uidDecoded : framework.decode (.integer records.env.uid) = some (.integer records.env.uid) :=
    by rw [decode]
  have suDecoded : framework.decode (.boolean records.env.su) = some (.boolean records.env.su) := by
    rw [decode]
  have modelFound := lawful.model_name ⟨records.env.uid, records.env.su, context⟩ records.model
  have restored : ∃ kept, framework.restoreContext
      ⟨records.model, [], ⟨records.env.uid, records.env.su, context⟩⟩ (some (.dict others)) =
        some ⟨records.model, [], ⟨records.env.uid, records.env.su, kept⟩⟩ := by
    rw [restoreContext]
    split
    · exact lawful.withContext_env _ others
    · exact ⟨context, rfl⟩
  obtain ⟨kept, restored⟩ := restored
  have browsed := lawful.browse_ids ⟨records.model, [], ⟨records.env.uid, records.env.su, kept⟩⟩
    records.databaseIds
  refine ⟨kept, ?_⟩
  -- The entries are read one after another, then the hook takes them up.
  rw [encodeRecordset, decode]
  simp only [decodeEntries, textDecoded, idsDecoded, uidDecoded, suDecoded, contextDecoded, bind,
    Option.bind_some]
  simp [objectHook, recompose, Argument.text?, List.lookup_cons, called, modelFound, restored,
    browsed]

theorem decode_marked (type value : String) :
    framework.decode (marked type value) =
      framework.objectHook [("_type", .text type), ("value", .text value)] := by
  rw [marked, decode]
  simp only [decodeEntries, decode, bind, Option.bind_some]

theorem decode_encode_datetime (moment : DateTime) :
    framework.decode (framework.encode (.datetime moment)) =
      (framework.parse moment.isoformat).map .datetime := by
  rw [encode, decode_marked]
  simp [objectHook, Argument.text?, List.lookup_cons, valueText]

theorem decode_encode_date (lawful : framework.Lawful) (date : Date) :
    framework.decode (framework.encode (.date date)) = some (.date date) := by
  rw [encode, decode_marked]
  simp [objectHook, Argument.text?, List.lookup_cons, valueText, lawful.parse_date]
  rfl

/-! ### What is kept comes back -/

theorem sameEntries_mono {entries others more : List (String × Argument Model Element)}
    (same : framework.SameEntries entries others) (subset : others ⊆ more) :
    framework.SameEntries entries more := by
  induction entries with
  | nil => rw [SameEntries]; exact trivial
  | cons entry entries induction =>
      rw [SameEntries] at same ⊢
      obtain ⟨⟨other, member, equal⟩, rest⟩ := same
      exact ⟨⟨other, subset member, equal⟩, induction rest⟩

theorem map_source_of_saved {ids : List RecordId}
    (saved : ∀ id ∈ ids, ∃ number, id = .saved number) :
    (ids.filterMap RecordId.source?).map .saved = ids := by
  induction ids with
  | nil => rfl
  | cons id ids induction =>
      obtain ⟨number, rfl⟩ := saved id List.mem_cons_self
      exact congrArg (RecordId.saved number :: ·)
        (induction fun id member => saved id (List.mem_cons_of_mem _ member))

mutual

theorem same_of_kept (lawful : framework.Lawful) :
    ∀ argument : Argument Model Element, framework.Kept argument →
      ∃ value, framework.decode (framework.encode argument) = some value ∧
        framework.Same argument value
  | .null, _ => ⟨.null, by rw [encode, decode], by rw [Same]⟩
  | .boolean value, _ => ⟨.boolean value, by rw [encode, decode], by rw [Same]; rfl⟩
  | .integer value, _ => ⟨.integer value, by rw [encode, decode], by rw [Same]; rfl⟩
  | .float value, _ => ⟨.float value, by rw [encode, decode], by rw [Same]; rfl⟩
  | .text value, _ => ⟨.text value, by rw [encode, decode], by rw [Same]⟩
  | .list items, kept => by
      rw [Kept] at kept
      obtain ⟨others, decoded, same⟩ := sameItems_of_kept lawful items kept
      refine ⟨.list others, by rw [encode, decode, decoded, Option.map_some], ?_⟩
      rw [Same]
      exact ⟨others, rfl, same⟩
  | .dict entries, kept => by
      rw [Kept] at kept
      obtain ⟨others, decoded, same⟩ := sameEntries_of_kept lawful entries kept.2
      have unmarked : ¬ Marked others := by
        rw [marked_decodeEntries decoded]
        exact kept.1
      have size := congrArg List.length (keys_decodeEntries decoded)
      rw [List.length_map, List.length_map] at size
      refine ⟨.dict others, ?_, ?_⟩
      · rw [encode, decode, decoded, Option.bind_some, objectHook_of_not_marked unmarked]
      · rw [Same]
        exact ⟨others, rfl, size.symm, same⟩
  | .recordset records, kept => by
      rw [Kept] at kept
      obtain ⟨context, decoded⟩ := decode_encodeRecordset lawful records
      refine ⟨_, by rw [encode, decoded], ?_⟩
      rw [Same]
      refine ⟨_, rfl, rfl, fun id => ?_⟩
      rw [Recordset.databaseIds, map_source_of_saved kept]
  | .datetime moment, kept => by
      rw [Kept] at kept
      have read : ∃ other, framework.parse moment.isoformat = some other ∧ moment.Same other := by
        rcases kept with whole | read
        · exact ⟨moment, lawful.parse_datetime moment whole, moment.same_refl⟩
        · exact read
      obtain ⟨other, parsed, same⟩ := read
      refine ⟨.datetime other, by rw [decode_encode_datetime, parsed, Option.map_some], ?_⟩
      rw [Same]
      exact ⟨other, rfl, same⟩
  | .date date, _ => ⟨.date date, decode_encode_date lawful date, by rw [Same]⟩
  | .element element, kept => by
      rw [Kept] at kept
      exact kept.elim

theorem sameItems_of_kept (lawful : framework.Lawful) :
    ∀ items : List (Argument Model Element), framework.KeptItems items →
      ∃ others, framework.decodeItems (framework.encodeItems items) = some others ∧
        framework.SameItems items others
  | [], _ => ⟨[], by rw [encodeItems, decodeItems], by rw [SameItems]⟩
  | item :: items, kept => by
      rw [KeptItems] at kept
      obtain ⟨other, decoded, same⟩ := same_of_kept lawful item kept.1
      obtain ⟨others, restDecoded, restSame⟩ := sameItems_of_kept lawful items kept.2
      refine ⟨other :: others, ?_, ?_⟩
      · rw [encodeItems, decodeItems, decoded, restDecoded]
        rfl
      · rw [SameItems]
        exact ⟨other, others, rfl, same, restSame⟩

theorem sameEntries_of_kept (lawful : framework.Lawful) :
    ∀ entries : List (String × Argument Model Element), framework.KeptEntries entries →
      ∃ others, framework.decodeEntries (framework.encodeEntries entries) = some others ∧
        framework.SameEntries entries others
  | [], _ => ⟨[], by rw [encodeEntries, decodeEntries], by rw [SameEntries]; exact trivial⟩
  | (key, value) :: entries, kept => by
      rw [KeptEntries] at kept
      obtain ⟨other, decoded, same⟩ := same_of_kept lawful value kept.1
      obtain ⟨others, restDecoded, restSame⟩ := sameEntries_of_kept lawful entries kept.2
      refine ⟨(key, other) :: others, ?_, ?_⟩
      · rw [encodeEntries, decodeEntries, decoded, restDecoded]
        rfl
      · rw [SameEntries]
        exact ⟨⟨other, List.mem_cons_self, same⟩,
          sameEntries_mono restSame (List.subset_cons_self _ _)⟩

end

/-! ### What comes back was kept -/

mutual

theorem kept_of_same (lawful : framework.Lawful) :
    ∀ argument : Argument Model Element, Distinct argument → ∀ value,
      framework.decode (framework.encode argument) = some value → framework.Same argument value →
        framework.Kept argument
  | .null, _, _, _, _ | .boolean _, _, _, _, _ | .integer _, _, _, _, _ | .float _, _, _, _, _
  | .text _, _, _, _, _ | .date _, _, _, _, _ => by simp [Kept]
  | .list items, distinct, value, decoded, same => by
      rw [Distinct] at distinct
      rw [encode, decode] at decoded
      rw [Same] at same
      obtain ⟨others, rfl, same⟩ := same
      obtain ⟨others', decoded, equal⟩ := Option.map_eq_some_iff.mp decoded
      cases equal
      rw [Kept]
      exact keptItems_of_same lawful items distinct others decoded same
  | .dict entries, distinct, value, decoded, same => by
      rw [Distinct] at distinct
      rw [encode] at decoded
      rw [Same] at same
      obtain ⟨others, rfl, -, same⟩ := same
      obtain ⟨obj, decoded, hooked⟩ := decode_object decoded
      rw [Kept]
      -- A marked object becomes no dictionary.
      rcases objectHook_cases hooked with ⟨unmarked, equal⟩ | ⟨-, other, -⟩
      · cases equal
        have keys := keys_decodeEntries decoded
        refine ⟨(marked_decodeEntries decoded).not.mp unmarked, ?_⟩
        exact keptEntries_of_same lawful entries distinct.2 others others decoded
          (List.Subset.refl _) (keys ▸ distinct.1) same
      · exact absurd rfl (other others)
  | .recordset records, _, value, decoded, same => by
      rw [Same] at same
      obtain ⟨others, rfl, -, same⟩ := same
      obtain ⟨context, found⟩ := decode_encodeRecordset lawful records
      rw [encode, found] at decoded
      cases decoded
      rw [Kept]
      intro id member
      obtain ⟨number, -, rfl⟩ := List.mem_map.mp ((same id).mp member)
      exact ⟨number, rfl⟩
  | .datetime moment, _, value, decoded, same => by
      rw [Same] at same
      obtain ⟨other, rfl, same⟩ := same
      rw [decode_encode_datetime] at decoded
      obtain ⟨other', parsed, equal⟩ := Option.map_eq_some_iff.mp decoded
      cases equal
      rw [Kept]
      exact .inr ⟨other, parsed, same⟩
  | .element element, _, value, _, same => by
      rw [Same] at same
      exact same.elim

theorem keptItems_of_same (lawful : framework.Lawful) :
    ∀ items : List (Argument Model Element), DistinctItems items → ∀ others,
      framework.decodeItems (framework.encodeItems items) = some others →
        framework.SameItems items others → framework.KeptItems items
  | [], _, _, _, _ => by rw [KeptItems]; exact trivial
  | item :: items, distinct, others, decoded, same => by
      rw [DistinctItems] at distinct
      rw [encodeItems] at decoded
      rw [SameItems] at same
      obtain ⟨other, rest, rfl, itemSame, restSame⟩ := same
      obtain ⟨first, tail, firstDecoded, restDecoded, equal⟩ := decodeItems_cons decoded
      cases equal
      rw [KeptItems]
      exact ⟨kept_of_same lawful item distinct.1 other firstDecoded itemSame,
        keptItems_of_same lawful items distinct.2 rest restDecoded restSame⟩

/-- The entries are a part of a dictionary, in which each key finds the value decoded for it. -/
theorem keptEntries_of_same (lawful : framework.Lawful) :
    ∀ entries : List (String × Argument Model Element), DistinctEntries entries →
      ∀ others all, framework.decodeEntries (framework.encodeEntries entries) = some others →
        others ⊆ all → (all.map Prod.fst).Nodup → framework.SameEntries entries all →
          framework.KeptEntries entries
  | [], _, _, _, _, _, _, _ => by rw [KeptEntries]; exact trivial
  | (key, value) :: entries, distinct, others, all, decoded, subset, keys, same => by
      rw [DistinctEntries] at distinct
      rw [encodeEntries] at decoded
      rw [SameEntries] at same
      obtain ⟨⟨other, member, valueSame⟩, restSame⟩ := same
      obtain ⟨first, rest, firstDecoded, restDecoded, rfl⟩ := decodeEntries_cons decoded
      have found : (key, first) ∈ all := subset List.mem_cons_self
      have equal : first = other :=
        congrArg Prod.snd (List.inj_on_of_nodup_map keys found member rfl)
      rw [← equal] at valueSame
      rw [KeptEntries]
      exact ⟨kept_of_same lawful value distinct.1 first firstDecoded valueSame,
        keptEntries_of_same lawful entries distinct.2 rest all restDecoded
          (List.Subset.trans (List.subset_cons_self _ _) subset) keys restSame⟩

end

/-- An argument comes back from the database as the same value if and only if it is kept. -/
theorem survives_iff_kept (lawful : framework.Lawful) (argument : Argument Model Element)
    (distinct : Distinct argument) :
    (∃ value, framework.decode (framework.encode argument) = some value ∧
      framework.Same argument value) ↔ framework.Kept argument := by
  constructor
  · rintro ⟨value, decoded, same⟩
    exact kept_of_same lawful argument distinct value decoded same
  · exact same_of_kept lawful argument

/-! ### An example -/

def contextValue : Argument String String → ContextValue
  | .boolean value => .flag value
  | .integer value => .number value
  | .text value => .text value
  | .list items => .numbers (items.filterMap fun
      | .integer value => some value
      | _ => none)
  | _ => .null

/-- Each text is the name of a model, and elements are their texts. -/
def plain : Framework String String where
  name := id
  call user su :=
    match user with
    | none | some .null => some ⟨1, su matches some (.boolean true), []⟩
    | some (.integer uid) => some ⟨uid.toNat, su matches some (.boolean true), []⟩
    | _ => none
  model env
    | .text name => some ⟨name, [], env⟩
    | _ => none
  withContext records entries :=
    let context := entries.map fun entry => (entry.1, contextValue entry.2)
    some { records with env := { records.env with context } }
  browse records
    | .list ids => some { records with
        ids := ids.filterMap fun
          | .integer id => some (.saved id.toNat)
          | _ => none }
    | _ => none
  parse := DateTime.readIso
  tostring := id
  fromstring := some
  truth text := text ≠ ""

theorem plain_lawful : plain.Lawful where
  call_user uid su := by
    refine ⟨⟨uid, su, []⟩, ?_, rfl, rfl⟩
    cases su <;> rfl
  model_name env model := rfl
  withContext_env records entries := ⟨_, rfl⟩
  browse_ids records ids := by
    simp only [plain, List.filterMap_map]
    induction ids with
    | nil => rfl
    | cons id ids induction => simp_all
  parse_date := DateTime.readIso_date
  parse_datetime moment := DateTime.readIso_isoformat

theorem newYear_valid : 1 ≤ 2024 ∧ 2024 ≤ 9999 ∧ 1 ≤ 1 ∧ 1 ≤ 12 ∧ 1 ≤ 1 ∧
    1 ≤ daysInMonth 2024 1 := by decide

def newYear : Date := ⟨2024, 1, 1, newYear_valid⟩

/-- A recordset, a datetime, a date and a dictionary with a type of another kind. -/
def shipment : Argument String String :=
  .list [
    .recordset ⟨"stock.picking", [.saved 7, .saved 9], ⟨2, false, [("lang", .text "fr_FR")]⟩⟩,
    .datetime ⟨.midnight newYear, some ⟨-7200000000, by decide⟩⟩,
    .date newYear,
    .dict [("_type", .text "parcel"), ("weight", .float (1 / 2))]]

theorem shipment_survives :
    ∃ value, plain.decode (plain.encode shipment) = some value ∧ plain.Same shipment value := by
  have distinct : Distinct shipment := by
    simp [shipment, Distinct, DistinctItems, DistinctEntries]
  have whole : DateTime.WholeMinutes ⟨.midnight newYear, some ⟨-7200000000, by decide⟩⟩ := by
    rintro offset ⟨⟩
    decide
  have kept : plain.Kept shipment := by
    simp [shipment, Kept, KeptItems, KeptEntries, Marked, typeMarks, Argument.text?, Legible,
      whole]
  exact (survives_iff_kept plain_lawful shipment distinct).mpr kept

/-- A dictionary that a store may send. -/
def datedPayload : Argument String String :=
  .dict [("_type", .text "date_isoformat"), ("value", .text "2024-01-01")]

/-- The dictionary is written as the date is. -/
theorem dated_payload_replaced :
    Distinct datedPayload ∧
      plain.decode (plain.encode datedPayload) = some (.date newYear) ∧
      ¬ ∃ value, plain.decode (plain.encode datedPayload) = some value ∧
        plain.Same datedPayload value := by
  have text : newYear.isoformat = "2024-01-01" := by decide
  have written : plain.encode datedPayload = plain.encode (.date newYear) := by
    simp only [datedPayload, encode, encodeEntries, marked, text]
  have decoded := decode_encode_date plain_lawful newYear
  rw [← written] at decoded
  refine ⟨by simp [datedPayload, Distinct, DistinctEntries], decoded, ?_⟩
  rintro ⟨value, found, same⟩
  rw [decoded] at found
  cases found
  simp [datedPayload, Same] at same

end OdooConnector.Queue.Framework
