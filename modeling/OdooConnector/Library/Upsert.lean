import Mathlib.Data.List.Basic
import Mathlib.Data.List.Nodup

/-!
# Records of received data

Received data is written on the stored record with its key, or creates a record. The records that a
batch creates are stored only after it, so that the batch does not find them. Records are known by
their positions. They are acted on at most once if an action closes its record, and if no batch
brings a new key twice.
-/

namespace OdooConnector

section

variable {ρ δ κ : Type*} [DecidableEq κ] (key : ρ → κ) (dataKey : δ → κ) (update : δ → ρ → ρ)
  (create : δ → ρ)

/-- Write received data on the stored record with its key, or on a record created for it. -/
def upsertStep (records : List ρ × List ρ) (data : δ) : List ρ × List ρ :=
  match records.1.findIdx? fun record => key record = dataKey data with
  | some index => (records.1.modify index (update data), records.2)
  | none => (records.1, records.2 ++ [create data])

/-- Stored records after a batch of received data. -/
def upsertBatch (stored : List ρ) (batch : List δ) : List ρ :=
  let records := batch.foldl (upsertStep key dataKey update create) (stored, [])
  records.1 ++ records.2

/-- The keys of a batch that no stored record has. -/
def newKeys (stored : List ρ) (batch : List δ) : List κ :=
  (batch.map dataKey).filter fun received => received ∉ stored.map key

end

variable {ρ δ κ : Type*}

/-- A record of a modified list is one of the list, or the modified one. -/
theorem mem_modify {records : List ρ} {index : ℕ} {change : ρ → ρ} {record : ρ}
    (mem : record ∈ records.modify index change) :
    record ∈ records ∨ ∃ old, records[index]? = some old ∧ record = change old := by
  obtain ⟨place, found⟩ := List.mem_iff_getElem?.1 mem
  rw [List.getElem?_modify, Option.map_eq_map, Option.map_eq_some_iff] at found
  obtain ⟨old, known, same⟩ := found
  split_ifs at same with here
  · exact .inr ⟨old, here ▸ known, same.symm⟩
  · exact .inl (same ▸ List.mem_of_getElem? known)

/-- A change that keeps the key of its record keeps all keys. -/
theorem map_modify {key : ρ → κ} {records : List ρ} {index : ℕ} {change : ρ → ρ}
    (keeps : ∀ record, records[index]? = some record → key (change record) = key record) :
    (records.modify index change).map key = records.map key := by
  refine List.ext_getElem? fun place => ?_
  rw [List.getElem?_map, List.getElem?_map, List.getElem?_modify]
  cases known : records[place]? with
  | none => rfl
  | some record =>
      by_cases here : index = place
      · subst here
        simp [keeps record known]
      · simp [here]

section

variable [DecidableEq κ] {key : ρ → κ} {dataKey : δ → κ} {update : δ → ρ → ρ} {create : δ → ρ}

variable (key dataKey update create) in
/-- What a step does: it updates a record with the key, or it creates one. -/
theorem upsertStep_cases (records : List ρ × List ρ) (data : δ) :
    (∃ index record, records.1[index]? = some record ∧ key record = dataKey data ∧
      upsertStep key dataKey update create records data =
        (records.1.modify index (update data), records.2)) ∨
    (dataKey data ∉ records.1.map key ∧
      upsertStep key dataKey update create records data =
        (records.1, records.2 ++ [create data])) := by
  rw [upsertStep]
  cases search : records.1.findIdx? fun record => key record = dataKey data with
  | some index =>
      obtain ⟨less, same, _⟩ := List.findIdx?_eq_some_iff_getElem.1 search
      exact .inl ⟨index, _, List.getElem?_eq_getElem less, of_decide_eq_true same, rfl⟩
  | none =>
      refine .inr ⟨fun mem => ?_, rfl⟩
      obtain ⟨record, stored, same⟩ := List.mem_map.1 mem
      have other := List.findIdx?_eq_none_iff.1 search record stored
      exact absurd same (of_decide_eq_false other)

/-- What holds of the stored records, and is kept and established by the received data, holds of
all records after a batch. -/
theorem forall_upsertBatch {holds : ρ → Prop} {stored : List ρ} {batch : List δ}
    (start : ∀ record ∈ stored, holds record)
    (updates : ∀ data ∈ batch, ∀ record, key record = dataKey data → holds record →
      holds (update data record))
    (creates : ∀ data ∈ batch, holds (create data)) :
    ∀ record ∈ upsertBatch key dataKey update create stored batch, holds record := by
  have run (records : List ρ × List ρ) (known : ∀ record ∈ records.1 ++ records.2, holds record) :
      ∀ record ∈ (batch.foldl (upsertStep key dataKey update create) records).1 ++
        (batch.foldl (upsertStep key dataKey update create) records).2, holds record := by
    induction batch generalizing records with
    | nil => exact known
    | cons data batch induction =>
        refine induction (fun data mem => updates data (List.mem_cons_of_mem _ mem))
          (fun data mem => creates data (List.mem_cons_of_mem _ mem)) _ fun record mem => ?_
        obtain ⟨index, old, found, same, next⟩ | ⟨_, next⟩ :=
          upsertStep_cases key dataKey update create records data
        all_goals rw [next] at mem
        · rcases List.mem_append.1 mem with changed | created
          · rcases mem_modify changed with kept | ⟨_, found', rfl⟩
            · exact known record (List.mem_append_left _ kept)
            · obtain rfl := Option.some_inj.1 (found.symm.trans found')
              exact updates data List.mem_cons_self old same
                (known old (List.mem_append_left _ (List.mem_of_getElem? found)))
          · exact known record (List.mem_append_right _ created)
        · rw [← List.append_assoc] at mem
          rcases List.mem_append.1 mem with old | created
          · exact known record old
          · rw [List.mem_singleton.1 created]
            exact creates data List.mem_cons_self
  exact run (stored, []) fun record mem => start record (by simpa using mem)

/-- A stored record keeps its place, and what the received data keeps of it. -/
theorem getElem?_upsertBatch {holds : ρ → Prop} {stored : List ρ} {batch : List δ} {index : ℕ}
    {record : ρ} (found : stored[index]? = some record) (start : holds record)
    (updates : ∀ data record, holds record → holds (update data record)) :
    ∃ kept, (upsertBatch key dataKey update create stored batch)[index]? = some kept ∧
      holds kept := by
  have run (records : List ρ × List ρ) {record : ρ} (found : records.1[index]? = some record)
      (start : holds record) : ∃ kept,
        (batch.foldl (upsertStep key dataKey update create) records).1[index]? = some kept ∧
          holds kept := by
    induction batch generalizing records record with
    | nil => exact ⟨record, found, start⟩
    | cons data batch induction =>
        obtain ⟨place, old, _, _, next⟩ | ⟨_, next⟩ :=
          upsertStep_cases key dataKey update create records data
        all_goals rw [List.foldl_cons, next]
        · by_cases here : place = index
          · have changed : (records.1.modify place (update data))[index]? =
                some (update data record) := by
              rw [here, List.getElem?_modify_eq, found]
              rfl
            exact induction _ changed (updates data record start)
          · have same : (records.1.modify place (update data))[index]? = some record := by
              rw [List.getElem?_modify_ne _ _ here, found]
            exact induction _ same start
        · exact induction _ found start
  obtain ⟨kept, last, holds⟩ := run (stored, []) found start
  refine ⟨kept, ?_, holds⟩
  rw [upsertBatch, List.getElem?_append_left (List.getElem?_eq_some_iff.1 last).1, last]

/-- The keys after a batch are the stored ones and the new ones of the batch. -/
theorem map_upsertBatch {stored : List ρ} {batch : List δ}
    (updates : ∀ data record, key record = dataKey data → key (update data record) = key record)
    (creates : ∀ data, key (create data) = dataKey data) :
    (upsertBatch key dataKey update create stored batch).map key =
      stored.map key ++ newKeys key dataKey stored batch := by
  have run (records : List ρ × List ρ) :
      (batch.foldl (upsertStep key dataKey update create) records).1.map key =
          records.1.map key ∧
        (batch.foldl (upsertStep key dataKey update create) records).2.map key =
          records.2.map key ++ newKeys key dataKey records.1 batch := by
    induction batch generalizing records with
    | nil => simp [newKeys]
    | cons data batch induction =>
        rw [List.foldl_cons]
        obtain ⟨index, old, found, same, next⟩ | ⟨fresh, next⟩ :=
          upsertStep_cases key dataKey update create records data
        · have keys : (records.1.modify index (update data)).map key = records.1.map key := by
            refine map_modify fun record found' => ?_
            obtain rfl := Option.some_inj.1 (found.symm.trans found')
            exact updates data old same
          have known : dataKey data ∈ records.1.map key :=
            same ▸ List.mem_map_of_mem (List.mem_of_getElem? found)
          obtain ⟨first, second⟩ := induction (records.1.modify index (update data), records.2)
          rw [next, first, second, keys]
          simp only [newKeys, keys, List.map_cons, List.filter_cons, known, not_true_eq_false,
            decide_false, Bool.false_eq_true, if_false, and_self]
        · obtain ⟨first, second⟩ := induction (records.1, records.2 ++ [create data])
          rw [next, first, second]
          simp only [newKeys, List.map_cons, List.filter_cons, fresh, not_false_eq_true,
            decide_true, if_true, List.map_append, List.map_nil, creates, List.append_assoc,
            List.cons_append, List.nil_append, and_self]
  rw [upsertBatch, List.map_append, (run (stored, [])).1, (run (stored, [])).2]
  rfl

theorem mem_newKeys {stored : List ρ} {batch : List δ} {received : κ} :
    received ∈ newKeys key dataKey stored batch ↔
      received ∈ batch.map dataKey ∧ received ∉ stored.map key := by
  simp [newKeys]

end

/-- There is one record for each key, and a record that was acted on is closed and was acted on
once. -/
structure AtMostOnce (key : ρ → κ) (closed : ρ → Bool) (records : List ρ) (acted : List ℕ) :
    Prop where
  keys : (records.map key).Nodup
  once : acted.Nodup
  isClosed : ∀ index ∈ acted, ∃ record, records[index]? = some record ∧ closed record = true

namespace AtMostOnce

variable {key : ρ → κ} {closed : ρ → Bool} {records : List ρ} {acted : List ℕ}

theorem nil : AtMostOnce key closed [] [] := ⟨List.nodup_nil, List.nodup_nil, by simp⟩

/-- A record is changed without an action. -/
theorem modify (holds : AtMostOnce key closed records acted) {index : ℕ} {change : ρ → ρ}
    (keeps : ∀ record, records[index]? = some record → key (change record) = key record)
    (stays : ∀ record, records[index]? = some record → closed record = true →
      closed (change record) = true) :
    AtMostOnce key closed (records.modify index change) acted := by
  refine ⟨map_modify keeps ▸ holds.keys, holds.once, fun place mem => ?_⟩
  obtain ⟨record, found, done⟩ := holds.isClosed place mem
  by_cases here : index = place
  · subst here
    exact ⟨change record, by rw [List.getElem?_modify_eq, found]; rfl, stays record found done⟩
  · exact ⟨record, by rw [List.getElem?_modify_ne _ _ here, found], done⟩

/-- An open record is acted on and closed. -/
theorem act (holds : AtMostOnce key closed records acted) {index : ℕ} {record : ρ}
    {change : ρ → ρ} (found : records[index]? = some record) (isOpen : closed record = false)
    (keeps : key (change record) = key record) (closes : closed (change record) = true) :
    AtMostOnce key closed (records.modify index change) (acted ++ [index]) := by
  have only {other : ρ} (found' : records[index]? = some other) : other = record :=
    Option.some_inj.1 (found'.symm.trans found)
  have kept : AtMostOnce key closed (records.modify index change) acted :=
    holds.modify (fun other found' => only found' ▸ keeps) fun other found' _ =>
      only found' ▸ closes
  have new : index ∉ acted := by
    intro mem
    obtain ⟨other, found', done⟩ := holds.isClosed index mem
    rw [only found', isOpen] at done
    contradiction
  refine ⟨kept.keys, List.nodup_append.2 ⟨kept.once, List.nodup_singleton _, ?_⟩, ?_⟩
  · rintro place mem _ here rfl
    exact new (List.mem_singleton.1 here ▸ mem)
  · intro place mem
    rcases List.mem_append.1 mem with before | here
    · exact kept.isClosed place before
    · rw [List.mem_singleton.1 here]
      exact ⟨change record, by rw [List.getElem?_modify_eq, found]; rfl, closes⟩

/-- A batch is received that brings no new key twice. -/
theorem upsert [DecidableEq κ] {dataKey : δ → κ} {update : δ → ρ → ρ} {create : δ → ρ}
    {batch : List δ} (holds : AtMostOnce key closed records acted)
    (updates : ∀ data record, key record = dataKey data → key (update data record) = key record)
    (creates : ∀ data, key (create data) = dataKey data)
    (stays : ∀ data record, closed record = true → closed (update data record) = true)
    (distinct : (newKeys key dataKey records batch).Nodup) :
    AtMostOnce key closed (upsertBatch key dataKey update create records batch) acted := by
  refine ⟨?_, holds.once, fun index mem => ?_⟩
  · rw [map_upsertBatch updates creates]
    refine List.nodup_append.2 ⟨holds.keys, distinct, ?_⟩
    rintro _ old _ new rfl
    exact (mem_newKeys.1 new).2 old
  · obtain ⟨record, found, done⟩ := holds.isClosed index mem
    exact getElem?_upsertBatch found done stays

end AtMostOnce

end OdooConnector
