import Mathlib.Data.List.Sort
import Mathlib.Order.Defs.LinearOrder

/-!
# Pages of a list that is sorted by time

A page holds the first elements at or after a cursor. When the next cursor is set one unit before
the last time of a full page, whether it advances depends on how many elements share two
consecutive units.
-/

namespace OdooConnector

variable {α : Type} (time : α → ℤ)

/-- A missing cursor reaches every time. -/
def reaches (cursor : Option ℤ) (value : ℤ) : Bool :=
  cursor.all fun start => start ≤ value

/-- Elements at or after a cursor. -/
def after (cursor : Option ℤ) (list : List α) : List α :=
  list.filter fun element => reaches cursor (time element)

/-- The first `limit` elements at or after a cursor. -/
def page (limit : ℕ) (cursor : Option ℤ) (list : List α) : List α :=
  (after time cursor list).take limit

/-- Elements in one unit of time and the next. -/
def window (start : ℤ) (list : List α) : List α :=
  list.filter fun element => start ≤ time element ∧ time element ≤ start + 1

theorem reaches_iff {cursor : Option ℤ} {value : ℤ} :
    reaches cursor value = true ↔ ∀ start ∈ cursor, start ≤ value := by
  cases cursor with
  | none => simp [reaches]
  | some start => simp [reaches]

variable {time} {limit : ℕ} {cursor : Option ℤ} {list : List α}

theorem mem_after {element : α} :
    element ∈ after time cursor list ↔
      element ∈ list ∧ reaches cursor (time element) = true :=
  List.mem_filter

theorem page_subset : page time limit cursor list ⊆ after time cursor list :=
  List.take_subset _ _

/-- A page that is not full holds everything. -/
theorem page_eq_after (partly : (page time limit cursor list).length ≠ limit) :
    page time limit cursor list = after time cursor list := by
  rw [page, List.length_take] at partly
  exact List.take_of_length_le (by omega)

theorem page_full_iff :
    (page time limit cursor list).length = limit ↔ limit ≤ (after time cursor list).length := by
  rw [page, List.length_take]
  omega

/-- A page holds everything before any time on it. -/
theorem mem_page_of_lt (sorted : list.Pairwise fun left right => time left ≤ time right)
    {element last : α} (member : element ∈ after time cursor list)
    (onPage : last ∈ page time limit cursor list) (earlier : time element < time last) :
    element ∈ page time limit cursor list := by
  have parts : page time limit cursor list ++ (after time cursor list).drop limit =
      after time cursor list := List.take_append_drop limit _
  have order : (after time cursor list).Pairwise fun left right => time left ≤ time right :=
    sorted.filter _
  rw [← parts] at member order
  rcases List.mem_append.mp member with here | later
  · exact here
  · have late := (List.pairwise_append.mp order).2.2 last onPage element later
    exact absurd earlier (not_lt.mpr late)

private theorem window_after (start : ℤ) (reached : reaches cursor start = true) :
    window time start list = window time start (after time cursor list) := by
  rw [window, window, after, List.filter_filter]
  refine List.filter_congr fun element _ => ?_
  rw [eq_comm, Bool.and_eq_left_iff_imp, decide_eq_true_eq]
  intro inside
  rw [reaches_iff] at reached ⊢
  exact fun first given => (reached first given).trans inside.1

/-- A cursor at or before a full window reads a full page, which does not end after the window. -/
theorem page_of_full_window (sorted : list.Pairwise fun left right => time left ≤ time right)
    {start : ℤ} (reached : reaches cursor start = true)
    (full : limit ≤ (window time start list).length) :
    (page time limit cursor list).length = limit ∧
      ∀ last ∈ page time limit cursor list, time last ≤ start + 1 := by
  rw [window_after start reached] at full
  constructor
  · rw [page_full_iff]
    exact full.trans (List.length_filter_le _ _)
  · intro last onPage
    by_contra later
    rw [not_le] at later
    -- the page would hold the whole window and the late element as well
    have parts : page time limit cursor list ++ (after time cursor list).drop limit =
        after time cursor list := List.take_append_drop limit _
    have order : (after time cursor list).Pairwise fun left right => time left ≤ time right :=
      sorted.filter _
    rw [← parts] at full order
    have outside : ((after time cursor list).drop limit).filter (fun element =>
        decide (start ≤ time element ∧ time element ≤ start + 1)) = [] := by
      rw [List.filter_eq_nil_iff]
      intro element dropped
      have late := (List.pairwise_append.mp order).2.2 last onPage element dropped
      simp only [decide_eq_true_eq]
      omega
    rw [window, List.filter_append, outside, List.append_nil] at full
    have fewer : ((page time limit cursor list).filter fun element =>
        decide (start ≤ time element ∧ time element ≤ start + 1)).length <
          (page time limit cursor list).length := by
      refine List.length_filter_lt_length_iff_exists.mpr ⟨last, onPage, ?_⟩
      simp only [decide_eq_true_eq]
      omega
    have short : (page time limit cursor list).length ≤ limit := List.length_take_le _ _
    omega

/-- A full page ends after the window at its cursor when this window is not full. -/
theorem exists_late_of_window {start : ℤ}
    (full : (page time limit (some start) list).length = limit)
    (fewer : (window time start list).length < limit) :
    ∃ last ∈ page time limit (some start) list, start + 1 < time last := by
  by_contra none
  push Not at none
  have inside : ((page time limit (some start) list).filter fun element =>
      decide (start ≤ time element ∧ time element ≤ start + 1)) =
        page time limit (some start) list := by
    rw [List.filter_eq_self]
    intro element onPage
    have reached := reaches_iff.mp (mem_after.mp (page_subset onPage)).2 start rfl
    exact decide_eq_true ⟨reached, none element onPage⟩
  have reached : reaches (some start) start = true := by simp [reaches]
  have sublist : (page time limit (some start) list).Sublist
      (window time start (after time (some start) list)) := by
    rw [← inside, window]
    exact (List.take_sublist _ _).filter _
  rw [window_after start reached] at fewer
  have longer := sublist.length_le
  omega

end OdooConnector
