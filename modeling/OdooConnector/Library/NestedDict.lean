import OdooConnector.Library.Dict

/-!
# Dictionaries of dictionaries

Dictionaries whose values are dictionaries are merged key by key. Where all that are merged agree
on an entry, the result has it.
-/

namespace OdooConnector
namespace Dict

variable {κ ι α : Type*} [DecidableEq κ] [DecidableEq ι]

/-- The dictionary of one entry. -/
def single (key : κ) (value : α) : Dict κ α := (∅ : Dict κ α).update key fun _ => value

/-- `dict.update` -/
def override (dict other : Dict κ α) : Dict κ α :=
  updateAll Prod.fst (fun entry _ => entry.2) dict other.entries

/-- A key that is present has its dictionary updated. -/
def merge (dict other : Dict κ (Dict ι α)) : Dict κ (Dict ι α) :=
  updateAll Prod.fst
    (fun entry present => present.elim entry.2 fun nested => nested.override entry.2) dict
    other.entries

/-- The value under two keys. -/
def entry (dict : Dict κ (Dict ι α)) (key : κ) (index : ι) : Option α :=
  (dict.get? key).bind fun nested => nested.get? index

theorem get?_single (key other : κ) (value : α) :
    (single key value).get? other = if other = key then some value else none := by
  rw [single, get?_update]
  rfl

/-- The elements with a key that no two share: at most one. -/
theorem filter_of_nodup {list : List (κ × α)} (nodup : (list.map Prod.fst).Nodup) (key : κ) :
    (list.filter fun entry => entry.1 = key) =
      (list.find? fun entry => entry.1 = key).toList := by
  induction list with
  | nil => rfl
  | cons head tail induction =>
      rw [List.map_cons, List.nodup_cons] at nodup
      by_cases same : head.1 = key
      · have others : (tail.filter fun entry => entry.1 = key) = [] := by
          rw [List.filter_eq_nil_iff]
          intro entry member equal
          apply nodup.1
          rw [same, ← of_decide_eq_true equal]
          exact List.mem_map_of_mem member
        simp [same, others]
      · simp [same, induction nodup.2]

/-- An update for each entry of a dictionary changes a key at most once. -/
theorem get?_updateAll_entries {β : Type*} (dict : Dict κ β) (other : Dict κ α)
    (change : α → Option β → β) (key : κ) :
    (updateAll Prod.fst (fun entry => change entry.2) dict other.entries).get? key =
      (other.get? key).elim (dict.get? key) fun value => some (change value (dict.get? key)) := by
  have stored : other.get? key =
      (other.entries.find? fun entry => entry.1 = key).map Prod.snd := rfl
  rw [get?_updateAll, filter_of_nodup other.keys_nodup, stored]
  cases other.entries.find? fun entry => entry.1 = key <;> rfl

theorem get?_override (dict other : Dict κ α) (key : κ) :
    (dict.override other).get? key = (other.get? key).or (dict.get? key) := by
  rw [override, get?_updateAll_entries dict other fun value _ => value]
  cases other.get? key <;> rfl

theorem get?_merge (dict other : Dict κ (Dict ι α)) (key : κ) :
    (dict.merge other).get? key =
      (other.get? key).elim (dict.get? key) fun added =>
        some ((dict.get? key).elim added fun nested => nested.override added) :=
  get?_updateAll_entries dict other
    (fun added present => present.elim added fun nested => nested.override added) key

theorem entry_merge (dict other : Dict κ (Dict ι α)) (key : κ) (index : ι) :
    (dict.merge other).entry key index = (other.entry key index).or (dict.entry key index) := by
  rw [entry, entry, entry, get?_merge]
  cases other.get? key with
  | none => rfl
  | some added =>
      cases dict.get? key with
      | none => simp
      | some nested => exact get?_override nested added index

/-- Updates of nested entries build the dictionary under a key from the elements with that key. -/
theorem get?_updateAll_nested {β : Type*} (key : β → κ) (index : β → ι)
    (change : β → Option α → α) (list : List β) (target : κ) :
    (updateAll key (fun item nested => (nested.getD ∅).update (index item) (change item)) ∅
        list).get? target =
      if (list.filter fun item => key item = target) = [] then none
      else some (updateAll index change ∅ (list.filter fun item => key item = target)) := by
  rw [get?_updateAll, get?_empty]
  generalize list.filter (fun item => key item = target) = kept
  induction kept using List.reverseRecOn with
  | nil => rfl
  | append_singleton kept last induction =>
      have more : updateAll index change ∅ (kept ++ [last]) =
          (updateAll index change ∅ kept).update (index last) (change last) := by
        rw [updateAll, List.foldl_append]
        rfl
      have nonempty : kept ++ [last] ≠ [] := by simp
      rw [List.foldl_append, induction, List.foldl_cons, List.foldl_nil, more, if_neg nonempty]
      by_cases empty : kept = []
      · rw [if_pos empty, empty]
        rfl
      · rw [if_neg empty, Option.getD_some]

/-- All of them, the later ones over the earlier ones. -/
def mergeAll (dicts : List (Dict κ (Dict ι α))) : Dict κ (Dict ι α) := dicts.foldl merge ∅

section

variable {dicts : List (Dict κ (Dict ι α))} {key : κ} {index : ι}

theorem mergeAll_concat (dicts : List (Dict κ (Dict ι α))) (last : Dict κ (Dict ι α)) :
    mergeAll (dicts ++ [last]) = (mergeAll dicts).merge last := by
  simp [mergeAll, List.foldl_append]

theorem get?_mergeAll_eq_none_iff :
    (mergeAll dicts).get? key = none ↔ ∀ dict ∈ dicts, dict.get? key = none := by
  induction dicts using List.reverseRecOn with
  | nil => exact iff_of_true rfl (by simp)
  | append_singleton dicts last induction =>
      rw [mergeAll_concat, get?_merge]
      cases added : last.get? key with
      | none => simpa [or_imp, forall_and, added] using induction
      | some value => simp [or_imp, forall_and, added]

theorem entry_mergeAll_eq_none (absent : ∀ dict ∈ dicts, dict.entry key index = none) :
    (mergeAll dicts).entry key index = none := by
  induction dicts using List.reverseRecOn with
  | nil => rfl
  | append_singleton dicts last induction =>
      rw [mergeAll_concat, entry_merge, absent last (by simp), Option.none_or]
      exact induction fun dict member => absent dict (List.mem_append_left [last] member)

/-- An entry on which all agree that have it. -/
theorem entry_mergeAll_eq_some {value : α}
    (present : ∃ dict ∈ dicts, dict.entry key index = some value)
    (agree : ∀ dict ∈ dicts, dict.entry key index = none ∨ dict.entry key index = some value) :
    (mergeAll dicts).entry key index = some value := by
  induction dicts using List.reverseRecOn with
  | nil =>
      obtain ⟨dict, member, _⟩ := present
      cases member
  | append_singleton dicts last induction =>
      rw [mergeAll_concat, entry_merge]
      rcases agree last (by simp) with none | some
      · rw [none, Option.none_or]
        apply induction
        · obtain ⟨dict, member, stored⟩ := present
          rcases List.mem_append.mp member with earlier | same
          · exact ⟨dict, earlier, stored⟩
          · rw [List.mem_singleton.mp same, none] at stored
            cases stored
        · intro dict member
          exact agree dict (List.mem_append_left [last] member)
      · rw [some, Option.some_or]

end

end Dict
end OdooConnector
