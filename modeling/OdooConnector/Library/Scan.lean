import Mathlib.Data.List.Basic
import Mathlib.Data.String.Basic

/-!
# All matches of a text

A text is scanned from left to right: where the matcher takes something, the scan goes on behind
it. A separator that no match contains cuts the scan in two.
-/

namespace OdooConnector

/-- What `\d` and `\w` take; beyond ASCII it is left open. -/
structure CharClasses where
  digit : Char → Bool
  word : Char → Bool
  digit_ascii : ∀ char, char.toNat < 128 → digit char = char.isDigit
  word_ascii : ∀ char, char.toNat < 128 → word char = (char.isAlphanum || char = '_')

namespace CharClasses

/-- The classes of the flag `re.ASCII`. -/
def ascii : CharClasses where
  digit := Char.isDigit
  word char := char.isAlphanum || char = '_'
  digit_ascii _ _ := rfl
  word_ascii _ _ := rfl

end CharClasses

variable {α β : Type*}

/-- `re.findall`, with `skip` elements left of the last match. A matcher gives what it takes at the
start of a text, which is not empty, and the value of the match. -/
def findAll (matcher : List α → Option (List α × β)) : ℕ → List α → List β
  | _, [] => []
  | skip + 1, _ :: text => findAll matcher skip text
  | 0, first :: text =>
      match matcher (first :: text) with
      | some (taken, value) => value :: findAll matcher (taken.length - 1) text
      | none => findAll matcher 0 text

/-- A text that starts with the character starts with it. -/
def leading [DecidableEq α] (expected : α) (text : List α) : List α :=
  if text.head? = some expected then [expected] else []

variable {matcher : List α → Option (List α × β)} {separator : α}

/-- The matches take the start of the text. -/
def TakesPrefix (matcher : List α → Option (List α × β)) : Prop :=
  ∀ text taken value, matcher text = some (taken, value) → taken <+: text

/-- No match contains the element. -/
def Avoids (matcher : List α → Option (List α × β)) (separator : α) : Prop :=
  ∀ text taken value, matcher text = some (taken, value) → separator ∉ taken

theorem findAll_none {first : α} {text : List α} (fails : matcher (first :: text) = none) :
    findAll matcher 0 (first :: text) = findAll matcher 0 text := by
  rw [findAll, fails]

theorem findAll_some {first : α} {text taken : List α} {value : β}
    (matched : matcher (first :: text) = some (taken, value)) :
    findAll matcher 0 (first :: text) = value :: findAll matcher (taken.length - 1) text := by
  rw [findAll, matched]

theorem findAll_skip (front rest : List α) :
    findAll matcher front.length (front ++ rest) = findAll matcher 0 rest := by
  induction front with
  | nil => rfl
  | cons first front induction =>
      rw [List.length_cons, List.cons_append, findAll]
      exact induction

/-- A match at the start of a text, and the matches behind it. -/
theorem findAll_match {taken rest : List α} {value : β} (nonempty : taken ≠ [])
    (matched : matcher (taken ++ rest) = some (taken, value)) :
    findAll matcher 0 (taken ++ rest) = value :: findAll matcher 0 rest := by
  cases taken with
  | nil => exact absurd rfl nonempty
  | cons first taken =>
      rw [List.cons_append] at matched ⊢
      rw [findAll_some matched, List.length_cons, Nat.add_sub_cancel, findAll_skip]

theorem findAll_eq_nil {text : List α}
    (fails : ∀ first rest, first :: rest <:+ text → matcher (first :: rest) = none) :
    findAll matcher 0 text = [] := by
  induction text with
  | nil => rfl
  | cons first text induction =>
      rw [findAll_none (fails first text List.suffix_rfl)]
      exact induction fun other rest suffix =>
        fails other rest (suffix.trans (List.suffix_cons _ _))

/-- A match that avoids the separator ends before it. -/
theorem length_le_of_avoids (takes : TakesPrefix matcher) (avoids : Avoids matcher separator)
    {before after taken : List α} {value : β}
    (matched : matcher (before ++ separator :: after) = some (taken, value)) :
    taken.length ≤ before.length := by
  by_contra longer
  obtain ⟨more, rfl⟩ : before <+: taken :=
    List.prefix_of_prefix_length_le (List.prefix_append _ _) (takes _ _ _ matched) (by omega)
  have free := avoids _ _ _ matched
  have rest := takes _ _ _ matched
  rw [List.prefix_append_right_inj] at rest
  cases more with
  | nil => simp at longer
  | cons first more =>
      rw [List.cons_prefix_cons] at rest
      simp [rest.1] at free

/-- The matches behind a separator are the last matches of the text. -/
theorem findAll_append (takes : TakesPrefix matcher) (avoids : Avoids matcher separator)
    (before after : List α) :
    ∃ earlier, findAll matcher 0 (before ++ separator :: after) =
      earlier ++ findAll matcher 0 after := by
  suffices scanned : ∀ skip ≤ before.length, ∃ earlier,
      findAll matcher skip (before ++ separator :: after) = earlier ++ findAll matcher 0 after from
    scanned 0 (Nat.zero_le _)
  induction before with
  | nil =>
      intro skip few
      obtain rfl := Nat.le_zero.mp few
      rw [List.nil_append]
      cases matched : matcher (separator :: after) with
      | none => exact ⟨[], findAll_none matched⟩
      | some result =>
          obtain ⟨taken, value⟩ := result
          have short : taken.length ≤ ([] : List α).length :=
            length_le_of_avoids takes avoids matched
          rw [List.length_nil, Nat.le_zero] at short
          refine ⟨[value], ?_⟩
          rw [findAll_some matched, short]
          rfl
  | cons first before induction =>
      intro skip few
      cases skip with
      | succ skip =>
          rw [List.cons_append, findAll]
          exact induction skip (Nat.succ_le_succ_iff.mp few)
      | zero =>
          cases matched : matcher (first :: before ++ separator :: after) with
          | none =>
              rw [List.cons_append] at matched ⊢
              rw [findAll_none matched]
              exact induction 0 (Nat.zero_le _)
          | some result =>
              obtain ⟨taken, value⟩ := result
              have short := length_le_of_avoids takes avoids matched
              rw [List.length_cons] at short
              obtain ⟨earlier, same⟩ := induction (taken.length - 1) (by omega)
              rw [List.cons_append] at matched ⊢
              refine ⟨value :: earlier, ?_⟩
              rw [findAll_some matched, same, List.cons_append]

section Leading

variable [DecidableEq α]

theorem leading_isPrefixOf (expected : α) (text : List α) : leading expected text <+: text := by
  rw [leading]
  split_ifs with same
  · obtain ⟨rest, rfl⟩ := List.head?_eq_some_iff.mp same
    exact List.prefix_append [expected] rest
  · exact List.nil_prefix

theorem eq_of_mem_leading {expected other : α} {text : List α}
    (member : other ∈ leading expected text) : other = expected := by
  rw [leading] at member
  split_ifs at member with same
  · exact List.mem_singleton.mp member
  · contradiction

end Leading

theorem prefix_append_drop {first second text : List α} (front : first <+: text)
    (back : second <+: text.drop first.length) : first ++ second <+: text := by
  obtain ⟨rest, rfl⟩ := front
  rw [List.drop_left] at back
  exact (List.prefix_append_right_inj first).mpr back

/-- A run up to an element that it does not take. -/
theorem takeWhile_stop {fits : α → Bool} {run rest : List α} (all : ∀ element ∈ run, fits element)
    (stops : ∀ element ∈ rest.head?, fits element = false) :
    (run ++ rest).takeWhile fits = run := by
  rw [List.takeWhile_append_of_pos all]
  cases rest with
  | nil => simp
  | cons first rest => simp [stops first rfl]

end OdooConnector
