import Mathlib.Data.List.DropRight
import OdooConnector.Library.Text

/-!
# Fields of a text

A text is cut at a separator and blanks around its fields are dropped. Blanks around the whole text
do not matter then, and fields without blanks around them are found again.
-/

namespace OdooConnector

section Trim

variable {α : Type*} (blank : α → Bool)

/-- Drop blanks at both ends. -/
def trim (list : List α) : List α := (list.dropWhile blank).rdropWhile blank

variable {blank} {head last : α} {list : List α}

theorem trim_cons (isBlank : blank head) : trim blank (head :: list) = trim blank list := by
  rw [trim, List.dropWhile_cons_of_pos isBlank, trim]

theorem trim_concat (isBlank : blank last) : trim blank (list ++ [last]) = trim blank list := by
  rw [trim, trim, List.dropWhile_append]
  split_ifs with allBlank
  · rw [List.isEmpty_iff.mp allBlank, List.dropWhile_cons_of_pos isBlank]
    rfl
  · exact List.rdropWhile_concat_pos _ _ _ isBlank

/-- What is dropped at the end does not uncover blanks at the front. -/
theorem trim_trim (list : List α) : trim blank (trim blank list) = trim blank list := by
  have front : (trim blank list).dropWhile blank = trim blank list := by
    have start : trim blank list <+: list.dropWhile blank := List.rdropWhile_prefix _ _
    cases rest : trim blank list with
    | nil => rfl
    | cons head tail =>
        rw [rest] at start
        obtain ⟨behind, same⟩ := start
        have first : ¬ blank head := by
          have kept := List.dropWhile_idempotent (p := blank) (l := list)
          rw [← same, List.cons_append] at kept
          intro isBlank
          have lengths := congrArg List.length kept
          rw [List.dropWhile_cons_of_pos isBlank] at lengths
          have shorter := (List.dropWhile_suffix (l := tail ++ behind) blank).length_le
          rw [lengths, List.length_cons] at shorter
          omega
        exact List.dropWhile_cons_of_neg first
  rw [trim, front, trim]
  exact List.rdropWhile_idempotent _ _

/-- A joined text holds nothing but separators and what is in its parts. -/
theorem mem_of_mem_intercalate {parts : List (List α)} {separator element : α}
    (member : element ∈ [separator].intercalate parts) :
    element = separator ∨ ∃ part ∈ parts, element ∈ part := by
  induction parts with
  | nil => cases member
  | cons first parts induction =>
      by_cases last : parts = []
      · rw [last, List.intercalate_singleton] at member
        exact .inr ⟨first, List.mem_cons_self, member⟩
      · rw [List.intercalate_cons_of_ne_nil last, List.mem_append, List.mem_append,
          List.mem_singleton] at member
        rcases member with (here | same) | later
        · exact .inr ⟨first, List.mem_cons_self, here⟩
        · exact .inl same
        · refine (induction later).imp_right fun found => ?_
          obtain ⟨part, listed, inside⟩ := found
          exact ⟨part, List.mem_cons_of_mem _ listed, inside⟩

end Trim

section Fields

variable {α : Type*} [DecidableEq α] (blank : α → Bool) (separator : α)

/-- The fields between separators, without blanks around them. -/
def fields (list : List α) : List (List α) := (list.splitOn separator).map (trim blank)

variable {blank separator} {list : List α}

theorem splitOn_cons_of_ne {head : α} (ne : head ≠ separator) :
    (head :: list).splitOn separator = (list.splitOn separator).modifyHead (head :: ·) := by
  rw [List.splitOn_cons_eq_if_modifyHead, if_neg (by simpa using ne)]

theorem fields_cons {head : α} (isBlank : blank head) (visible : blank separator = false) :
    fields blank separator (head :: list) = fields blank separator list := by
  have ne : head ≠ separator := by
    intro same
    rw [same, visible] at isBlank
    cases isBlank
  rw [fields, splitOn_cons_of_ne ne, fields]
  cases list.splitOn separator with
  | nil => rfl
  | cons first rest => exact congrArg (· :: rest.map (trim blank)) (trim_cons isBlank)

/-- A blank at the end belongs to the last field, which is behind the other separators. -/
theorem fields_concat {last : α} (isBlank : blank last) (visible : blank separator = false) :
    fields blank separator (list ++ [last]) = fields blank separator list := by
  have ne : separator ≠ last := by
    intro same
    rw [← same, visible] at isBlank
    cases isBlank
  induction size : list.length using Nat.strong_induction_on generalizing list with
  | _ total induction =>
      by_cases cut : separator ∈ list
      · obtain ⟨front, back, rfl⟩ := List.append_of_mem cut
        have shorter : back.length < total := by
          rw [← size, List.length_append, List.length_cons]
          omega
        have rest := induction back.length shorter rfl
        rw [fields, fields] at rest ⊢
        rw [List.append_assoc, List.cons_append, List.splitOn_append_cons_self,
          List.splitOn_append_cons_self, List.map_append, List.map_append, rest]
      · have free : separator ∉ list ++ [last] := by
          rw [List.mem_append, List.mem_singleton, not_or]
          exact ⟨cut, ne⟩
        rw [fields, fields, List.splitOn_eq_singleton free, List.splitOn_eq_singleton cut,
          List.map_singleton, List.map_singleton, trim_concat isBlank]

/-- Blanks around a text are around its first or its last field. -/
theorem fields_trim (visible : blank separator = false) (list : List α) :
    fields blank separator (trim blank list) = fields blank separator list := by
  have front (list : List α) :
      fields blank separator (list.dropWhile blank) = fields blank separator list := by
    induction list with
    | nil => rfl
    | cons head list induction =>
        by_cases isBlank : blank head
        · rw [List.dropWhile_cons_of_pos isBlank, induction, fields_cons isBlank visible]
        · rw [List.dropWhile_cons_of_neg isBlank]
  have back (list : List α) :
      fields blank separator (list.rdropWhile blank) = fields blank separator list := by
    induction list using List.reverseRecOn with
    | nil => rfl
    | append_singleton list last induction =>
        by_cases isBlank : blank last
        · rw [List.rdropWhile_concat_pos _ _ _ isBlank, induction, fields_concat isBlank visible]
        · rw [List.rdropWhile_concat_neg _ _ _ isBlank]
  rw [trim, back, front]

theorem mem_of_mem_splitOn (separator : α) (list : List α) :
    ∀ part ∈ list.splitOn separator, ∀ element ∈ part, element ∈ list := by
  induction list with
  | nil => simp
  | cons head list induction =>
      rw [List.splitOn_cons_eq_if_modifyHead]
      split
      · intro part member element inside
        rcases List.mem_cons.mp member with rfl | later
        · cases inside
        · exact List.mem_cons_of_mem _ (induction part later element inside)
      · cases parts : list.splitOn separator with
        | nil => simp
        | cons first rest =>
            rw [parts] at induction
            intro part member element inside
            rw [List.modifyHead_cons] at member
            rcases List.mem_cons.mp member with rfl | later
            · rcases List.mem_cons.mp inside with rfl | inside
              · exact List.mem_cons_self
              · exact List.mem_cons_of_mem _ (induction first List.mem_cons_self element inside)
            · exact List.mem_cons_of_mem _
                (induction part (List.mem_cons_of_mem _ later) element inside)

theorem not_mem_fields {part : List α} (member : part ∈ fields blank separator list) :
    separator ∉ part := by
  obtain ⟨whole, listed, rfl⟩ := List.mem_map.mp member
  intro inside
  refine not_mem_of_mem_splitOn separator list whole listed ?_
  exact (List.dropWhile_suffix _).subset ((List.rdropWhile_prefix _ _).subset inside)

/-- Fields hold nothing but what is in the text. -/
theorem mem_of_mem_fields {part : List α} {element : α}
    (member : part ∈ fields blank separator list) (inside : element ∈ part) : element ∈ list := by
  obtain ⟨whole, listed, rfl⟩ := List.mem_map.mp member
  have within : element ∈ whole :=
    (List.dropWhile_suffix _).subset ((List.rdropWhile_prefix _ _).subset inside)
  exact mem_of_mem_splitOn separator list whole listed element within

theorem trim_of_mem_fields {part : List α} (member : part ∈ fields blank separator list) :
    trim blank part = part := by
  obtain ⟨whole, -, rfl⟩ := List.mem_map.mp member
  exact trim_trim whole

end Fields

end OdooConnector
