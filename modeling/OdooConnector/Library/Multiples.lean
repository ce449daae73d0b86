import Mathlib.Algebra.Order.Floor.Ring
import Mathlib.Algebra.Ring.Subgroup
import Mathlib.Algebra.Order.Archimedean.Basic
import Mathlib.Data.Rat.Floor
import Mathlib.Tactic.FieldSimp
import Mathlib.Tactic.Linarith

/-!
# Multiples of a unit

The multiple of a unit that follows a value is the least one above it. It is the least one that is
not below the value unless the value is a multiple itself, and it moves along with the value when
a multiple is added.
-/

namespace OdooConnector

variable {K : Type*} [Field K]

/-- The integer multiples of a unit. -/
abbrev multiples (unit : K) : AddSubgroup K := AddSubgroup.zmultiples unit

theorem mem_multiples_iff {unit value : K} :
    value ∈ multiples unit ↔ ∃ count : ℤ, value = unit * count := by
  rw [AddSubgroup.mem_zmultiples_iff]
  refine exists_congr fun count => ?_
  rw [zsmul_eq_mul, mul_comm, eq_comm]

variable [LinearOrder K] [FloorRing K]

/-- Remainder of a division with a quotient that is rounded down. -/
def remainder (value modulus : K) : K := value - modulus * ⌊value / modulus⌋

/-- The multiple of the unit that follows a value. -/
def nextMultiple (unit value : K) : K := unit * (⌊value / unit⌋ + 1)

theorem add_sub_remainder (value modulus : K) :
    value + (modulus - remainder value modulus) = nextMultiple modulus value := by
  rw [remainder, nextMultiple]
  ring

theorem nextMultiple_mul {factor : K} (nonzero : factor ≠ 0) (unit value : K) :
    nextMultiple (unit * factor) (value * factor) = nextMultiple unit value * factor := by
  rw [nextMultiple, nextMultiple, mul_div_mul_right _ _ nonzero]
  ring

theorem nextMultiple_mem (unit value : K) : nextMultiple unit value ∈ multiples unit :=
  mem_multiples_iff.mpr ⟨⌊value / unit⌋ + 1, by rw [nextMultiple, Int.cast_add, Int.cast_one]⟩

section Positive

variable [IsStrictOrderedRing K] {unit : K} (positive : 0 < unit)

include positive

theorem lt_nextMultiple (value : K) : value < nextMultiple unit value := by
  rw [nextMultiple, mul_comm, ← div_lt_iff₀ positive]
  exact Int.lt_floor_add_one _

/-- The next multiple is the least one above the value. -/
theorem nextMultiple_le {value multiple : K} (member : multiple ∈ multiples unit)
    (above : value < multiple) : nextMultiple unit value ≤ multiple := by
  obtain ⟨count, rfl⟩ := mem_multiples_iff.mp member
  have below : ⌊value / unit⌋ < count := by
    rw [Int.floor_lt, div_lt_iff₀ positive, mul_comm]
    exact above
  rw [nextMultiple]
  refine mul_le_mul_of_nonneg_left ?_ positive.le
  exact_mod_cast below

/-- The next multiple is the least one from the value on exactly if that is no multiple. -/
theorem isLeast_nextMultiple_iff {value : K} :
    IsLeast {multiple | multiple ∈ multiples unit ∧ value ≤ multiple} (nextMultiple unit value) ↔
      value ∉ multiples unit := by
  constructor
  · intro least member
    exact (lt_nextMultiple positive value).not_ge (least.2 ⟨member, le_rfl⟩)
  · intro between
    refine ⟨⟨nextMultiple_mem unit value, (lt_nextMultiple positive value).le⟩, ?_⟩
    rintro multiple ⟨member, above⟩
    refine nextMultiple_le positive member (lt_of_le_of_ne above ?_)
    rintro rfl
    exact between member

/-- Adding a multiple moves the next multiple by as much. -/
theorem nextMultiple_add {value multiple : K} (member : multiple ∈ multiples unit) :
    nextMultiple unit (value + multiple) = nextMultiple unit value + multiple := by
  obtain ⟨count, rfl⟩ := mem_multiples_iff.mp member
  rw [nextMultiple, nextMultiple, add_div, mul_div_cancel_left₀ _ positive.ne',
    Int.floor_add_intCast, Int.cast_add]
  ring

end Positive

end OdooConnector
