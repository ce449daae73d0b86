import Mathlib.Data.List.Basic

/-!
# Cutting a list into chunks

Consecutive slices of one length cover a list without gaps or overlaps.
-/

namespace OdooConnector

variable {α : Type}

/-- Slices of the given length from every multiple of it that lies in the list. -/
def chunks (size : ℕ) (list : List α) : List (List α) :=
  (List.range ((list.length + size - 1) / size)).map fun number =>
    (list.drop (number * size)).take size

theorem flatten_slices (size : ℕ) (list : List α) (count : ℕ) :
    ((List.range count).map fun number => (list.drop (number * size)).take size).flatten =
      list.take (count * size) := by
  induction count with
  | zero => simp
  | succ count induction =>
      rw [List.range_succ, List.map_append, List.flatten_append, induction, Nat.succ_mul,
        List.take_add]
      simp

theorem flatten_chunks {size : ℕ} (positive : 0 < size) (list : List α) :
    (chunks size list).flatten = list := by
  rw [chunks, flatten_slices]
  have enough : list.length + size - 1 < (list.length + size - 1) / size * size + size :=
    Nat.lt_div_mul_add positive
  exact List.take_of_length_le (by omega)

/-- No chunk is empty, and none is longer than the given length. -/
theorem length_of_mem_chunks {size : ℕ} (positive : 0 < size) {list chunk : List α}
    (member : chunk ∈ chunks size list) : 0 < chunk.length ∧ chunk.length ≤ size := by
  obtain ⟨number, listed, rfl⟩ := List.mem_map.mp member
  have begins : (number + 1) * size ≤ list.length + size - 1 :=
    (Nat.le_div_iff_mul_le positive).mp (List.mem_range.mp listed)
  rw [Nat.succ_mul] at begins
  rw [List.length_take, List.length_drop]
  omega

end OdooConnector
