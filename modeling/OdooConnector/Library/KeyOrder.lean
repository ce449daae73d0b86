import OdooConnector.Library.NestedDict

/-!
# The order of keys

A dictionary is gone through in the order of the first writes of its keys. Where its entries write
one target each, the order tells which of two entries for one target is the last.
-/

namespace OdooConnector
namespace Dict

variable {κ α β : Type*} [DecidableEq κ]

/-- The values changed one by one. -/
def mapValues (change : α → β) (dict : Dict κ α) : Dict κ β where
  entries := dict.entries.map fun entry => (entry.1, change entry.2)
  keys_nodup := by
    rw [List.map_map]
    exact dict.keys_nodup

theorem get?_mapValues (change : α → β) (dict : Dict κ α) (key : κ) :
    (dict.mapValues change).get? key = (dict.get? key).map change := by
  simp only [get?, mapValues, List.find?_map, Option.map_map]
  rfl

theorem get?_cons {head : κ × α} {tail : List (κ × α)}
    (nodup : ((head :: tail).map Prod.fst).Nodup) (key : κ) :
    get? ⟨head :: tail, nodup⟩ key =
      if head.1 = key then some head.2 else get? ⟨tail, (List.nodup_cons.mp nodup).2⟩ key := by
  rw [get?, List.find?_cons]
  by_cases same : head.1 = key
  · simp [same]
  · simp [same, get?]

/-- The values changed one by one, some of them left out. -/
def filterMapValues (change : α → Option β) (dict : Dict κ α) : Dict κ β where
  entries := dict.entries.filterMap fun entry => (change entry.2).map fun value => (entry.1, value)
  keys_nodup := by
    refine dict.keys_nodup.sublist ?_
    rw [List.map_filterMap]
    induction dict.entries with
    | nil => exact List.Sublist.refl []
    | cons head tail induction =>
        cases written : change head.2 with
        | none => simpa [written] using induction.cons head.1
        | some value => simpa [written] using induction.cons_cons head.1

theorem get?_filterMapValues (change : α → Option β) (dict : Dict κ α) (key : κ) :
    (dict.filterMapValues change).get? key = (dict.get? key).bind change := by
  apply Option.ext
  intro value
  rw [get?_eq_some_iff, Option.bind_eq_some_iff, filterMapValues, List.mem_filterMap]
  constructor
  · intro ⟨entry, member, written⟩
    obtain ⟨result, changed, same⟩ := Option.map_eq_some_iff.mp written
    cases same
    exact ⟨entry.2, (get?_eq_some_iff dict entry.1 entry.2).mpr member, changed⟩
  · intro ⟨old, stored, changed⟩
    refine ⟨(key, old), (get?_eq_some_iff dict key old).mp stored, ?_⟩
    rw [changed]
    rfl

omit [DecidableEq κ] in
theorem values_mapValues (change : α → β) (dict : Dict κ α) :
    (dict.mapValues change).values = dict.values.map change := by
  rw [values, mapValues, List.map_map, values, List.map_map]
  rfl

omit [DecidableEq κ] in
theorem values_filterMapValues (change : α → Option β) (dict : Dict κ α) :
    (dict.filterMapValues change).values = dict.values.filterMap change := by
  rw [values, filterMapValues, List.map_filterMap, values, List.filterMap_map]
  congr 1
  funext entry
  cases written : change entry.2 <;> simp [written]

/-- The dictionary without one key. -/
def without (dict : Dict κ α) (key : κ) : Dict κ α where
  entries := dict.entries.filter fun entry => key ≠ entry.1
  keys_nodup := dict.keys_nodup.sublist (List.filter_sublist.map Prod.fst)

theorem get?_without (dict : Dict κ α) (key other : κ) :
    (dict.without key).get? other = if other = key then none else dict.get? other := by
  apply Option.ext
  intro value
  rw [get?_eq_some_iff, without, List.mem_filter, ← get?_eq_some_iff]
  by_cases same : other = key
  · simp [same]
  · simp [same, Ne.symm same]

theorem find?_keys_without {keep : κ → Bool} {key : κ} (others : keep key = false)
    (dict : Dict κ α) : (dict.without key).keys.find? keep = dict.keys.find? keep := by
  have kept : (dict.without key).keys = dict.keys.filter fun other => key ≠ other := by
    rw [keys, keys, List.filter_map]
    rfl
  rw [kept, List.find?_filter]
  congr 1
  funext other
  by_cases equal : key = other
  · simp [← equal, others]
  · simp [equal]

theorem mem_keys_iff (dict : Dict κ α) (key : κ) : key ∈ dict.keys ↔ dict.get? key ≠ none := by
  rw [keys, get?, Ne, Option.map_eq_none_iff, List.find?_eq_none, List.mem_map]
  constructor
  · intro present absent
    obtain ⟨entry, member, same⟩ := present
    exact absent entry member (decide_eq_true same)
  · intro present
    by_contra absent
    apply present
    intro entry member same
    exact absent ⟨entry, member, of_decide_eq_true same⟩

theorem get?_tail_head {head : κ × α} {tail : List (κ × α)}
    (nodup : ((head :: tail).map Prod.fst).Nodup) {key : κ} (same : head.1 = key) :
    get? ⟨tail, (List.nodup_cons.mp nodup).2⟩ key = none := by
  by_contra present
  apply (List.nodup_cons.mp nodup).1
  rw [same]
  exact (mem_keys_iff ⟨tail, (List.nodup_cons.mp nodup).2⟩ key).mpr present

/-- The first key of a kind is the first one that is written. -/
theorem find?_keys_update (keep : κ → Bool) (dict : Dict κ α) (key : κ) (change : Option α → α) :
    (dict.update key change).keys.find? keep = (dict.keys.find? keep).or ([key].find? keep) := by
  rw [keys_update]
  split
  · rename_i present
    cases kept : keep key with
    | false => simp [kept]
    | true =>
        obtain ⟨found, first⟩ : ∃ found, dict.keys.find? keep = some found := by
          rw [← Option.isSome_iff_exists, List.find?_isSome]
          exact ⟨key, present, kept⟩
        rw [first, Option.some_or]
  · rw [List.find?_append]

theorem find?_keys_updateAll (keep : κ → Bool) (key : β → κ) (change : β → Option α → α)
    (dict : Dict κ α) (list : List β) :
    (updateAll key change dict list).keys.find? keep =
      (dict.keys.find? keep).or ((list.map key).find? keep) := by
  induction list generalizing dict with
  | nil => simp [updateAll]
  | cons item list induction =>
      have step : updateAll key change dict (item :: list) =
          updateAll key change (dict.update (key item) (change item)) list := rfl
      rw [step, induction, find?_keys_update, Option.or_assoc, ← List.find?_append]
      rfl

/-- The same for writes that may be left out. -/
theorem find?_keys_writeAll (keep : κ → Bool) (key : β → κ) (value : β → Option α)
    (dict : Dict κ α) (list : List β) :
    (writeAll key value dict list).keys.find? keep =
      (dict.keys.find? keep).or
        (((list.filter fun item => (value item).isSome).map key).find? keep) := by
  induction list generalizing dict with
  | nil => simp [writeAll]
  | cons item list induction =>
      cases written : value item with
      | none =>
          have step : writeAll key value dict (item :: list) = writeAll key value dict list := by
            rw [writeAll, List.foldl_cons, written]
            rfl
          rw [step, induction]
          simp [written]
      | some result =>
          have step : writeAll key value dict (item :: list) =
              writeAll key value (dict.update (key item) fun _ => result) list := by
            rw [writeAll, List.foldl_cons, written]
            rfl
          rw [step, induction, find?_keys_update, Option.or_assoc, ← List.find?_append]
          simp [written]

/-- The value of a later entry comes first. -/
theorem lastValue_cons {γ τ : Type*} [DecidableEq τ] (key : β → τ) (value : β → Option γ)
    (head : β) (list : List β) (goal : τ) :
    lastValue key value (head :: list) goal =
      (lastValue key value list goal).or (if key head = goal then value head else none) := by
  rw [lastValue, List.reverse_cons, List.findSome?_append, ← lastValue]
  congr 1
  exact List.findSome?_singleton

section

variable {γ τ : Type*} [DecidableEq τ] {target : κ → τ} {goal : τ}

/-- One key has the target; its entry decides. -/
theorem lastValue_of_one (text : κ × α → Option γ) (dict : Dict κ α) {only : κ}
    (one : ∀ key ∈ dict.keys, target key = goal ↔ key = only) :
    lastValue (fun entry : κ × α => target entry.1) text dict.entries goal =
      (dict.get? only).bind fun value => text (only, value) := by
  obtain ⟨entries, nodup⟩ := dict
  induction entries with
  | nil => rfl
  | cons head tail induction =>
      have rest := induction (List.nodup_cons.mp nodup).2
        fun key member => one key (List.mem_cons_of_mem head.1 member)
      rw [lastValue_cons, rest, get?_cons]
      have first := one head.1 List.mem_cons_self
      by_cases same : head.1 = only
      · rw [if_pos same, if_pos (first.mpr same), get?_tail_head nodup same, ← same]
        rfl
      · rw [if_neg same, if_neg fun equal => same (first.mp equal), Option.or_none]

theorem lastValue_fst (text : κ × α → Option γ) (dict : Dict κ α) (key : κ) :
    lastValue Prod.fst text dict.entries key =
      (dict.get? key).bind fun value => text (key, value) :=
  lastValue_of_one text dict fun _ _ => Iff.rfl

/-- Two keys have the target; the entry that comes later decides, if it writes. -/
theorem lastValue_of_two (text : α → Option γ) (dict : Dict κ α) {first second : κ}
    (two : ∀ key ∈ dict.keys, target key = goal ↔ key = first ∨ key = second)
    (order : (dict.keys.find? fun key => key = first ∨ key = second) ≠ some second) :
    lastValue (fun entry : κ × α => target entry.1) (fun entry => text entry.2) dict.entries goal =
      ((dict.get? second).bind text).or ((dict.get? first).bind text) := by
  obtain ⟨entries, nodup⟩ := dict
  induction entries with
  | nil => rfl
  | cons head tail induction =>
      have later (key : κ) (member : key ∈ tail.map Prod.fst) :
          target key = goal ↔ key = first ∨ key = second :=
        two key (List.mem_cons_of_mem head.1 member)
      have hit := two head.1 List.mem_cons_self
      have fresh : ∀ key ∈ tail.map Prod.fst, key ≠ head.1 := by
        intro key member same
        exact (List.nodup_cons.mp nodup).1 (same ▸ member)
      rw [keys, List.map_cons, List.find?_cons] at order
      rw [lastValue_cons, get?_cons, get?_cons]
      by_cases isSecond : head.1 = second
      · simp [isSecond] at order
      · rw [if_neg isSecond]
        by_cases isFirst : head.1 = first
        · have one (key : κ) (member : key ∈ tail.map Prod.fst) :
              target key = goal ↔ key = second := by
            rw [later key member]
            exact or_iff_right fun same => fresh key member (same.trans isFirst.symm)
          rw [lastValue_of_one (fun entry => text entry.2) ⟨tail, (List.nodup_cons.mp nodup).2⟩ one,
            if_pos (hit.mpr (Or.inl isFirst)), if_pos isFirst]
          rfl
        · rw [if_neg isFirst, if_neg fun equal => (hit.mp equal).elim isFirst isSecond,
            Option.or_none]
          apply induction (List.nodup_cons.mp nodup).2 later
          have neither : decide (head.1 = first ∨ head.1 = second) = false := by
            simp [isFirst, isSecond]
          rwa [neither] at order

end

end Dict
end OdooConnector
