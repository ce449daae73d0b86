import Mathlib.Data.List.Nodup
import Mathlib.Data.List.Basic
import Mathlib.Data.List.Induction

/-!
# Insertion-ordered dictionaries

A dictionary keeps its entries in the order in which the keys were first written. The keys are
pairwise distinct by construction, and a loop that updates one key for each element of a list is
described key by key: the value at a key depends only on the elements that carry this key.
-/

namespace OdooConnector

/-- A dictionary whose entries stand in the order of the first write of their keys. -/
structure Dict (κ α : Type*) where
  /-- Key-value pairs in insertion order. -/
  entries : List (κ × α)
  keys_nodup : (entries.map Prod.fst).Nodup

namespace Dict

variable {κ α β : Type*} [DecidableEq κ]

/-- The dictionary without entries. -/
def empty : Dict κ α := ⟨[], List.nodup_nil⟩

instance : EmptyCollection (Dict κ α) := ⟨empty⟩

/-- Keys in insertion order. -/
def keys (dict : Dict κ α) : List κ := dict.entries.map Prod.fst

/-- Values in the insertion order of their keys. -/
def values (dict : Dict κ α) : List α := dict.entries.map Prod.snd

/-- Value stored under a key. -/
def get? (dict : Dict κ α) (key : κ) : Option α :=
  (dict.entries.find? fun entry => entry.1 = key).map Prod.snd

private def updateEntries (entries : List (κ × α)) (key : κ) (change : Option α → α) :
    List (κ × α) :=
  match entries with
  | [] => [(key, change none)]
  | entry :: rest =>
      if entry.1 = key then (key, change (some entry.2)) :: rest
      else entry :: updateEntries rest key change

private theorem updateEntries_keys (entries : List (κ × α)) (key : κ) (change : Option α → α) :
    (updateEntries entries key change).map Prod.fst =
      if key ∈ entries.map Prod.fst then entries.map Prod.fst
      else entries.map Prod.fst ++ [key] := by
  induction entries with
  | nil => simp [updateEntries]
  | cons entry rest induction =>
      by_cases same : entry.1 = key
      · simp [updateEntries, same]
      · have other : ¬key = entry.1 := fun equal => same equal.symm
        simp only [updateEntries, same, if_false, List.map_cons, induction, List.mem_cons, other,
          false_or]
        split <;> simp

/-- Write `change old` under a key, where `old` is its present value. -/
def update (dict : Dict κ α) (key : κ) (change : Option α → α) : Dict κ α where
  entries := updateEntries dict.entries key change
  keys_nodup := by
    rw [updateEntries_keys]
    split
    · exact dict.keys_nodup
    · rename_i fresh
      exact List.nodup_append.mpr
        ⟨dict.keys_nodup, by simp, by
          intro other member last lastMember equal
          obtain rfl := List.mem_singleton.mp lastMember
          exact fresh (equal ▸ member)⟩

@[simp]
theorem get?_empty (key : κ) : (∅ : Dict κ α).get? key = none := rfl

/-- A key that is new comes last. -/
theorem keys_update (dict : Dict κ α) (key : κ) (change : Option α → α) :
    (dict.update key change).keys = if key ∈ dict.keys then dict.keys else dict.keys ++ [key] :=
  updateEntries_keys dict.entries key change

theorem mem_keys_update (dict : Dict κ α) (key other : κ) (change : Option α → α) :
    other ∈ (dict.update key change).keys ↔ other ∈ dict.keys ∨ other = key := by
  rw [keys, keys, update, updateEntries_keys]
  split
  · rename_i present
    constructor
    · exact Or.inl
    · rintro (member | rfl)
      · exact member
      · exact present
  · simp

private theorem find?_updateEntries (entries : List (κ × α)) (key other : κ)
    (change : Option α → α) :
    ((updateEntries entries key change).find? fun entry => entry.1 = other).map Prod.snd =
      if other = key then
        some (change ((entries.find? fun entry => entry.1 = key).map Prod.snd))
      else (entries.find? fun entry => entry.1 = other).map Prod.snd := by
  induction entries with
  | nil =>
      by_cases same : other = key
      · simp [updateEntries, same]
      · simp [updateEntries, same, Ne.symm same]
  | cons entry rest induction =>
      by_cases hit : entry.1 = key
      · by_cases same : other = key
        · simp [updateEntries, hit, same]
        · simp [updateEntries, hit, same, Ne.symm same]
      · by_cases shown : entry.1 = other
        · have different : other ≠ key := shown ▸ hit
          simp [updateEntries, shown, different]
        · simpa [updateEntries, hit, shown] using induction

theorem get?_update (dict : Dict κ α) (key other : κ) (change : Option α → α) :
    (dict.update key change).get? other =
      if other = key then some (change (dict.get? key)) else dict.get? other :=
  find?_updateEntries dict.entries key other change

theorem get?_eq_some_iff (dict : Dict κ α) (key : κ) (value : α) :
    dict.get? key = some value ↔ (key, value) ∈ dict.entries := by
  rw [get?, Option.map_eq_some_iff]
  constructor
  · rintro ⟨⟨found, stored⟩, hit, rfl⟩
    have same := List.find?_some hit
    simp only [decide_eq_true_eq] at same
    exact same ▸ List.mem_of_find?_eq_some hit
  · intro member
    refine ⟨(key, value), ?_, rfl⟩
    obtain ⟨found, hit⟩ : ∃ found,
        dict.entries.find? (fun entry => entry.1 = key) = some found := by
      rw [← Option.isSome_iff_exists, List.find?_isSome]
      exact ⟨(key, value), member, by simp⟩
    have same := List.find?_some hit
    simp only [decide_eq_true_eq] at same
    rw [hit, List.inj_on_of_nodup_map dict.keys_nodup (List.mem_of_find?_eq_some hit) member same]

/-- Run one update for each element of a list. -/
def updateAll (key : β → κ) (change : β → Option α → α) (dict : Dict κ α) (list : List β) :
    Dict κ α :=
  list.foldl (fun dict item => dict.update (key item) (change item)) dict

/-- The value at a key is folded from the elements that carry this key, in their order. -/
theorem get?_updateAll (key : β → κ) (change : β → Option α → α) (dict : Dict κ α)
    (list : List β) (target : κ) :
    (updateAll key change dict list).get? target =
      (list.filter fun item => key item = target).foldl
        (fun value item => some (change item value)) (dict.get? target) := by
  induction list generalizing dict with
  | nil => rfl
  | cons item list induction =>
      rw [updateAll, List.foldl_cons, ← updateAll, induction, get?_update]
      by_cases same : key item = target
      · simp [same]
      · simp [same, Ne.symm same]

/-- A key for which no element stands keeps its value. -/
theorem get?_updateAll_of_none {key : β → κ} {change : β → Option α → α} {dict : Dict κ α}
    {list : List β} {target : κ} (absent : ∀ item ∈ list, key item ≠ target) :
    (updateAll key change dict list).get? target = dict.get? target := by
  have nothing : (list.filter fun item => key item = target) = [] := by
    simpa using absent
  rw [get?_updateAll, nothing, List.foldl_nil]

/-- Where all elements with a key write one value, it is the value of the key. -/
theorem get?_updateAll_of_agree {key : β → κ} {value : β → α} {dict : Dict κ α} {list : List β}
    {target : κ} {written : α} (present : ∃ item ∈ list, key item = target)
    (agree : ∀ item ∈ list, key item = target → value item = written) :
    (updateAll key (fun item _ => value item) dict list).get? target = some written := by
  rw [get?_updateAll]
  have nonempty : (list.filter fun item => key item = target) ≠ [] := by
    obtain ⟨item, member, same⟩ := present
    exact List.ne_nil_of_mem (List.mem_filter.mpr ⟨member, decide_eq_true same⟩)
  obtain ⟨front, last, split⟩ := List.eq_nil_or_concat _ |>.resolve_left nonempty
  have kept : last ∈ list.filter fun item => key item = target := by
    rw [split]
    simp
  rw [split, List.concat_eq_append, List.foldl_append]
  have lastKept := List.mem_filter.mp kept
  exact congrArg some (agree last lastKept.1 (of_decide_eq_true lastKept.2))

theorem mem_keys_updateAll (key : β → κ) (change : β → Option α → α) (dict : Dict κ α)
    (list : List β) (target : κ) :
    target ∈ (updateAll key change dict list).keys ↔
      target ∈ dict.keys ∨ ∃ item ∈ list, key item = target := by
  induction list generalizing dict with
  | nil => simp [updateAll]
  | cons item list induction =>
      rw [updateAll, List.foldl_cons, ← updateAll, induction, mem_keys_update]
      simp only [List.mem_cons, exists_eq_or_imp, or_assoc, eq_comm (a := target)]

/-- Group the elements of a list by a key, in the order of the first element of each group. -/
def groupBy (key : β → κ) (list : List β) : Dict κ (List β) :=
  updateAll key (fun item group => group.getD [] ++ [item]) ∅ list

private theorem foldl_append_getD (list : List β) (group : Option (List β)) :
    list.foldl (fun value item => some (value.getD [] ++ [item])) group =
      if list = [] then group else some (group.getD [] ++ list) := by
  induction list generalizing group with
  | nil => rfl
  | cons item list induction =>
      rw [List.foldl_cons, induction]
      by_cases last : list = []
      · simp [last]
      · simp [last, List.append_assoc]

/-- A group holds exactly the elements with its key, in list order. -/
theorem get?_groupBy (key : β → κ) (list : List β) (target : κ) :
    (groupBy key list).get? target =
      if (list.filter fun item => key item = target) = [] then none
      else some (list.filter fun item => key item = target) := by
  rw [groupBy, get?_updateAll, foldl_append_getD]
  simp

theorem mem_groupBy_entries {key : β → κ} {list : List β} {entry : κ × List β}
    (member : entry ∈ (groupBy key list).entries) :
    entry.2 ≠ [] ∧ entry.2 = list.filter fun item => key item = entry.1 := by
  have found := (get?_eq_some_iff _ _ _).mpr member
  rw [get?_groupBy] at found
  split at found
  · contradiction
  · rename_i nonempty
    have same := Option.some.inj found
    exact ⟨same ▸ nonempty, same.symm⟩

theorem groupBy_entries_eq_nil {key : β → κ} {list : List β} :
    (groupBy key list).entries = [] ↔ list = [] := by
  constructor
  · intro none
    refine List.eq_nil_iff_forall_not_mem.mpr fun item member => ?_
    have keyed : key item ∈ (groupBy key list).keys :=
      (mem_keys_updateAll _ _ _ _ _).mpr (.inr ⟨item, member, rfl⟩)
    rw [keys, none] at keyed
    cases keyed
  · rintro rfl
    rfl

/-! ## Large groups -/

/-- The groups of a list by a key that have some size. -/
def largeGroups (key : β → κ) (level : ℕ) (list : List β) : List (κ × List β) :=
  (groupBy key list).entries.filter fun entry => level ≤ entry.2.length

theorem mem_largeGroups {key : β → κ} {level : ℕ} (positive : 0 < level) {list : List β}
    {entry : κ × List β} : entry ∈ largeGroups key level list ↔
      entry.2 = (list.filter fun item => key item = entry.1) ∧ level ≤ entry.2.length := by
  rw [largeGroups, List.mem_filter, decide_eq_true_eq]
  refine and_congr_left fun large => ⟨fun member => (mem_groupBy_entries member).2, ?_⟩
  intro same
  refine (get?_eq_some_iff _ _ _).mp ?_
  rw [get?_groupBy, ← same, if_neg]
  intro empty
  rw [empty, List.length_nil] at large
  omega

/-- No group has two elements if and only if each key has at most one. -/
theorem largeGroups_eq_nil_iff {key : β → κ} {list : List β} : largeGroups key 2 list = [] ↔
    ∀ group, (list.filter fun item => key item = group).length ≤ 1 := by
  rw [List.eq_nil_iff_forall_not_mem]
  constructor
  · intro none group
    by_contra large
    exact none (group, list.filter fun item => key item = group)
      ((mem_largeGroups Nat.zero_lt_two).mpr ⟨rfl, Nat.lt_of_not_le large⟩)
  · intro small entry member
    obtain ⟨same, large⟩ := (mem_largeGroups Nat.zero_lt_two).mp member
    have few := small entry.1
    rw [← same] at few
    omega

theorem nodup_map_iff {key : β → κ} {list : List β} : (list.map key).Nodup ↔
    ∀ group, (list.filter fun item => key item = group).length ≤ 1 := by
  rw [List.nodup_iff_count_le_one]
  refine forall_congr' fun group => ?_
  rw [List.count, List.countP_map, List.countP_eq_length_filter]
  refine iff_of_eq (congrArg (· ≤ 1) (congrArg List.length (List.filter_congr fun item _ => ?_)))
  exact Bool.beq_eq_decide_eq _ _

/-! ## Optional writes -/

/-- Each element writes a value under its key, or nothing. -/
def writeAll (key : β → κ) (value : β → Option α) (dict : Dict κ α) (list : List β) : Dict κ α :=
  list.foldl (fun dict item =>
    match value item with
    | some written => dict.update (key item) fun _ => written
    | none => dict) dict

/-- The last value that an element with this key writes. -/
def lastValue (key : β → κ) (value : β → Option α) (list : List β) (target : κ) : Option α :=
  list.reverse.findSome? fun item => if key item = target then value item else none

theorem lastValue_concat (key : β → κ) (value : β → Option α) (list : List β) (last : β)
    (target : κ) :
    lastValue key value (list ++ [last]) target =
      ((if key last = target then value last else none).or (lastValue key value list target)) := by
  rw [lastValue, List.reverse_append]
  simp only [List.reverse_cons, List.reverse_nil, List.nil_append, List.cons_append,
    List.findSome?_cons, lastValue]
  cases (if key last = target then value last else none) <;> rfl

theorem writeAll_concat (key : β → κ) (value : β → Option α) (dict : Dict κ α) (list : List β)
    (last : β) :
    writeAll key value dict (list ++ [last]) =
      match value last with
      | some written => (writeAll key value dict list).update (key last) fun _ => written
      | none => writeAll key value dict list := by
  simp [writeAll, List.foldl_append]

/-- The last write of a key decides on its value. -/
theorem get?_writeAll (key : β → κ) (value : β → Option α) (dict : Dict κ α) (list : List β)
    (target : κ) :
    (writeAll key value dict list).get? target =
      (lastValue key value list target).or (dict.get? target) := by
  induction list using List.reverseRecOn with
  | nil => rfl
  | append_singleton list last induction =>
      rw [writeAll_concat, lastValue_concat]
      cases written : value last with
      | none => simp [induction]
      | some written =>
          rw [get?_update]
          by_cases same : key last = target
          · simp [same]
          · simp [same, Ne.symm same, induction]

theorem lastValue_eq_none_iff {key : β → κ} {value : β → Option α} {list : List β} {target : κ} :
    lastValue key value list target = none ↔
      ∀ item ∈ list, key item = target → value item = none := by
  rw [lastValue, List.findSome?_eq_none_iff]
  simp only [List.mem_reverse, ite_eq_right_iff]

theorem lastValue_eq_some_iff {key : β → κ} {value : β → Option α} {list : List β} {target : κ}
    {written : α} :
    lastValue key value list target = some written ↔
      ∃ before item after, list = before ++ item :: after ∧ key item = target ∧
        value item = some written ∧
          ∀ later ∈ after, key later = target → value later = none := by
  rw [lastValue, List.findSome?_eq_some_iff]
  constructor
  · rintro ⟨after, item, before, split, found, none⟩
    have order : list = before.reverse ++ item :: after.reverse := by
      rw [← List.reverse_reverse list, split]
      simp
    by_cases same : key item = target
    · rw [if_pos same] at found
      refine ⟨before.reverse, item, after.reverse, order, same, found, ?_⟩
      intro later member other
      have nothing := none later (List.mem_reverse.mp member)
      rwa [if_pos other] at nothing
    · rw [if_neg same] at found
      cases found
  · rintro ⟨before, item, after, rfl, same, found, none⟩
    refine ⟨after.reverse, item, before.reverse, by simp, ?_, ?_⟩
    · rw [if_pos same, found]
    · intro later member
      rw [ite_eq_right_iff]
      exact none later (List.mem_reverse.mp member)

end Dict
end OdooConnector
