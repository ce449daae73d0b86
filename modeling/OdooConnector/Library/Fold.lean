import Mathlib.Data.List.Basic

/-!
# Loops over a list

A loop invariant may mention the elements that have been visited so far. One induction over the
list, with the visited prefix generalized, serves every loop of the development, such as the one
that keeps the first value of each key.
-/

namespace OdooConnector

universe u

variable {σ α : Type*}

/-- An invariant that every iteration preserves holds after the loop for all elements. -/
theorem foldl_visited (step : σ → α → σ) (Inv : List α → σ → Prop) (list : List α) {state : σ}
    (start : Inv [] state)
    (advance : ∀ visited next rest current, list = visited ++ next :: rest →
      Inv visited current → Inv (visited ++ [next]) (step current next)) :
    Inv list (list.foldl step state) := by
  have run : ∀ rest visited current, list = visited ++ rest → Inv visited current →
      Inv list (rest.foldl step current) := by
    intro rest
    induction rest with
    | nil =>
        intro visited current split holds
        simpa [split] using holds
    | cons next rest induction =>
        intro visited current split holds
        exact induction (visited ++ [next]) (step current next) (by simp [split])
          (advance visited next rest current split holds)
  exact run list [] state rfl start

/-- A property of the state alone that every iteration preserves holds after the loop. -/
theorem foldl_preserves (step : σ → α → σ) (Inv : σ → Prop) (list : List α) {state : σ}
    (start : Inv state) (advance : ∀ current next, Inv current → Inv (step current next)) :
    Inv (list.foldl step state) :=
  foldl_visited step (fun _ => Inv) list start fun _ next _ current _ => advance current next

/-- An invariant that the iterations for the elements of the list preserve. -/
theorem foldl_preserves_mem (step : σ → α → σ) (Inv : σ → Prop) (list : List α) {state : σ}
    (start : Inv state)
    (advance : ∀ current, ∀ next ∈ list, Inv current → Inv (step current next)) :
    Inv (list.foldl step state) := by
  refine foldl_visited step (fun _ => Inv) list start fun visited next rest current parts => ?_
  exact advance current next (parts ▸ List.mem_append_right _ List.mem_cons_self)

/-- Both parts of a computation succeed. -/
theorem bind_eq_ok_iff {ε : Type*} {α β : Type u} {first : Except ε α} {rest : α → Except ε β}
    {result : β} :
    first >>= rest = .ok result ↔ ∃ value, first = .ok value ∧ rest value = .ok result := by
  cases first with
  | error error =>
      constructor
      · intro ran
        cases ran
      · rintro ⟨value, ran, _⟩
        cases ran
  | ok value =>
      constructor
      · exact fun ran => ⟨value, rfl, ran⟩
      · rintro ⟨other, same, ran⟩
        cases same
        exact ran

/-- Another kind of error does not change a result. -/
theorem mapError_eq_ok_iff {ε τ : Type*} {wrap : ε → τ} {ran : Except ε α} {value : α} :
    ran.mapError wrap = .ok value ↔ ran = .ok value := by
  cases ran <;> simp [Except.mapError]

/-- What every iteration preserves holds after a loop that no iteration stops with an error. -/
theorem foldlM_preserves {ε : Type*} {step : σ → α → Except ε σ} {Inv : σ → Prop}
    (advance : ∀ current next after, step current next = .ok after → Inv current → Inv after)
    {list : List α} {state final : σ} (start : Inv state)
    (ends : list.foldlM step state = .ok final) : Inv final := by
  induction list generalizing state with
  | nil =>
      cases ends
      exact start
  | cons next list induction =>
      rw [List.foldlM_cons, bind_eq_ok_iff] at ends
      obtain ⟨after, first, ends⟩ := ends
      exact induction (advance state next after first start) ends

/-- An invariant that may mention the elements visited so far, for a loop that an iteration may stop
with an error. -/
theorem foldlM_visited {ε : Type*} {step : σ → α → Except ε σ} (Inv : List α → σ → Prop)
    (list : List α) {state final : σ} (start : Inv [] state)
    (advance : ∀ visited next rest current after, list = visited ++ next :: rest →
      Inv visited current → step current next = .ok after → Inv (visited ++ [next]) after)
    (ends : list.foldlM step state = .ok final) : Inv list final := by
  have run : ∀ rest visited current, list = visited ++ rest → Inv visited current →
      rest.foldlM step current = .ok final → Inv list final := by
    intro rest
    induction rest with
    | nil =>
        intro visited current split holds ends
        cases ends
        simpa [split] using holds
    | cons next rest induction =>
        intro visited current split holds ends
        rw [List.foldlM_cons, bind_eq_ok_iff] at ends
        obtain ⟨after, first, ends⟩ := ends
        exact induction (visited ++ [next]) after (by simp [split])
          (advance visited next rest current after split holds first) ends
  exact run list [] state rfl start ends

/-- Such a loop reaches its end if each iteration can be done in the states that the iterations
before it lead to. -/
theorem exists_foldlM_iff {ε : Type*} {step : σ → α → Except ε σ} (Inv : List α → σ → Prop)
    (Can : List α → α → Prop) (list : List α) {state : σ} (start : Inv [] state)
    (advance : ∀ visited next rest current after, list = visited ++ next :: rest →
      Inv visited current → step current next = .ok after → Inv (visited ++ [next]) after)
    (can : ∀ visited next rest current, list = visited ++ next :: rest → Inv visited current →
      ((∃ after, step current next = .ok after) ↔ Can visited next)) :
    (∃ final, list.foldlM step state = .ok final) ↔
      ∀ visited next rest, list = visited ++ next :: rest → Can visited next := by
  have run : ∀ rest visited current, list = visited ++ rest → Inv visited current →
      ((∃ final, rest.foldlM step current = .ok final) ↔
        ∀ seen next later, rest = seen ++ next :: later → Can (visited ++ seen) next) := by
    intro rest
    induction rest with
    | nil =>
        intro visited current _ _
        refine iff_of_true ⟨current, rfl⟩ ?_
        intro seen next later split
        cases seen <;> cases split
    | cons next rest induction =>
        intro visited current split holds
        simp only [List.foldlM_cons, bind_eq_ok_iff]
        have remaining : ∀ after, step current next = .ok after →
            ((∃ final, rest.foldlM step after = .ok final) ↔
              ∀ seen other later, rest = seen ++ other :: later →
                Can (visited ++ [next] ++ seen) other) := fun after first =>
          induction (visited ++ [next]) after (by simp [split])
            (advance visited next rest current after split holds first)
        have enabled := can visited next rest current split holds
        constructor
        · rintro ⟨final, after, first, ends⟩ seen other later divided
          cases seen with
          | nil =>
              cases divided
              simpa using enabled.mp ⟨after, first⟩
          | cons head seen =>
              cases divided
              simpa using (remaining after first).mp ⟨final, ends⟩ seen other later rfl
        · intro all
          obtain ⟨after, first⟩ := enabled.mpr (by simpa using all [] next rest rfl)
          have rest := (remaining after first).mpr fun seen other later divided => by
            simpa using all (next :: seen) other later (by simp [divided])
          obtain ⟨final, ends⟩ := rest
          exact ⟨final, after, first, ends⟩
  simpa using run list [] state rfl start

/-! ## The first value of each key -/

variable {κ : Type*} (key : α → κ)

/-- A value is kept if its key was not seen before. -/
def addUnseen [DecidableEq κ] (state : List α × List κ) (value : α) : List α × List κ :=
  (if key value ∈ state.2 then state.1 else state.1 ++ [value], key value :: state.2)

/-- The first value of each key, in the order of the list. -/
def keepFirst [DecidableEq κ] (values : List α) : List α :=
  (values.foldl (addUnseen key) ([], [])).1

/-- What has been kept of the values seen: one for each key. -/
structure KeptFirst (seen : List α) (state : List α × List κ) : Prop where
  keys : ∀ entry, entry ∈ state.2 ↔ ∃ value ∈ state.1, key value = entry
  covers : ∀ value ∈ seen, key value ∈ state.2
  unique : ∀ first ∈ state.1, ∀ second ∈ state.1, key first = key second → first = second
  sound : ∀ value ∈ state.1, value ∈ seen

variable {key} {seen : List α} {state : List α × List κ} {value : α}

theorem KeptFirst.known (kept : KeptFirst key seen state) (known : key value ∈ state.2) :
    KeptFirst key (seen ++ [value]) (state.1, key value :: state.2) := by
  refine ⟨fun entry => ?_, fun other member => ?_, kept.unique, fun other member => ?_⟩
  · rw [List.mem_cons, or_iff_right_of_imp (fun same => same ▸ known), kept.keys]
  · obtain before | last := List.mem_append.mp member
    · exact List.mem_cons_of_mem _ (kept.covers other before)
    · rw [List.mem_singleton.mp last]
      exact List.mem_cons_self
  · exact List.mem_append_left _ (kept.sound other member)

theorem KeptFirst.fresh (kept : KeptFirst key seen state) (unknown : key value ∉ state.2) :
    KeptFirst key (seen ++ [value]) (state.1 ++ [value], key value :: state.2) := by
  have differs : ∀ other ∈ state.1, key other ≠ key value := fun other member same =>
    unknown ((kept.keys (key value)).mpr ⟨other, member, same⟩)
  refine ⟨fun entry => ?_, fun other member => ?_, ?_, fun other member => ?_⟩
  · simp only [List.mem_cons, List.mem_append, List.not_mem_nil, or_false, kept.keys]
    constructor
    · rintro (rfl | ⟨other, member, same⟩)
      · exact ⟨value, Or.inr rfl, rfl⟩
      · exact ⟨other, Or.inl member, same⟩
    · rintro ⟨other, member | rfl, same⟩
      · exact Or.inr ⟨other, member, same⟩
      · exact Or.inl same.symm
  · obtain before | last := List.mem_append.mp member
    · exact List.mem_cons_of_mem _ (kept.covers other before)
    · rw [List.mem_singleton.mp last]
      exact List.mem_cons_self
  · intro first firstMember second secondMember same
    obtain firstBefore | firstLast := List.mem_append.mp firstMember
    · obtain secondBefore | secondLast := List.mem_append.mp secondMember
      · exact kept.unique first firstBefore second secondBefore same
      · rw [List.mem_singleton.mp secondLast] at same
        exact absurd same (differs first firstBefore)
    · rw [List.mem_singleton.mp firstLast] at same ⊢
      obtain secondBefore | secondLast := List.mem_append.mp secondMember
      · exact absurd same.symm (differs second secondBefore)
      · exact (List.mem_singleton.mp secondLast).symm
  · obtain before | last := List.mem_append.mp member
    · exact List.mem_append_left _ (kept.sound other before)
    · exact List.mem_append_right _ last

theorem keepFirst_kept [DecidableEq κ] (values : List α) :
    KeptFirst key values (values.foldl (addUnseen key) ([], [])) := by
  refine foldl_visited (addUnseen key) (KeptFirst key) values ?_ ?_
  · constructor <;> simp
  · intro visited next rest current _ kept
    rw [addUnseen]
    split_ifs with known
    · exact kept.known known
    · exact kept.fresh known

/-- Nothing is left out exactly when the keys tell the values apart. -/
theorem keepFirst_complete_iff [DecidableEq κ] (values : List α) :
    (∀ value ∈ values, value ∈ keepFirst key values) ↔
      ∀ first ∈ values, ∀ second ∈ values, key first = key second → first = second := by
  have kept : KeptFirst key values (values.foldl (addUnseen key) ([], [])) := keepFirst_kept values
  constructor
  · intro complete first firstMember second secondMember
    exact kept.unique first (complete first firstMember) second (complete second secondMember)
  · intro apart value member
    obtain ⟨other, listed, same⟩ := (kept.keys (key value)).mp (kept.covers value member)
    rw [← apart other (kept.sound other listed) value member same]
    exact listed

end OdooConnector
