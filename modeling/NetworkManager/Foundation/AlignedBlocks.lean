import Mathlib.Data.Set.Lattice
import Mathlib.Order.CompletePartialOrder
import Mathlib.Algebra.Order.Group.Nat

/-!
# Aligned blocks

The numbers fall into blocks of one size, one after the other from zero on.
Where one size divides another, a small block lies in a large one or beside it;
so two blocks meet exactly if one of them holds the start of the other.
-/

namespace NetworkManager.Foundation

/-- The block of a size that a number lies in. -/
def alignedBlock (size number : Nat) : Set Nat :=
  {other | other / size = number / size}

/-- The first number of the block. -/
def blockStart (size number : Nat) : Nat := number / size * size

variable {size small large number other left right : Nat}

theorem mem_alignedBlock_iff :
    other ∈ alignedBlock size number ↔ other / size = number / size :=
  Iff.rfl

/-- A block runs from its start to the number before the next block. -/
theorem mem_alignedBlock_iff_between (positive : 0 < size) :
    other ∈ alignedBlock size number ↔
      blockStart size number ≤ other ∧
        other ≤ blockStart size number + (size - 1) := by
  have below : other ≤ blockStart size number + (size - 1) ↔
      other < (number / size + 1) * size := by
    rw [blockStart, Nat.add_mul, Nat.one_mul]
    omega
  rw [mem_alignedBlock_iff, below, ← Nat.div_lt_iff_lt_mul positive, blockStart,
    ← Nat.le_div_iff_mul_le positive]
  omega

theorem blockStart_mem (positive : 0 < size) :
    blockStart size number ∈ alignedBlock size number := by
  rw [mem_alignedBlock_iff, blockStart, Nat.mul_div_cancel _ positive]

/-- A block is the block of each of its members. -/
theorem alignedBlock_eq (member : other ∈ alignedBlock size number) :
    alignedBlock size other = alignedBlock size number := by
  ext tested
  rw [mem_alignedBlock_iff, mem_alignedBlock_iff, mem_alignedBlock_iff.mp member]

section Divides

variable (divides : small ∣ large)
include divides

/-- Around a number the small block lies in the large one. -/
theorem alignedBlock_subset :
    alignedBlock small number ⊆ alignedBlock large number := by
  obtain ⟨factor, rfl⟩ := divides
  intro tested inSmall
  rw [mem_alignedBlock_iff] at inSmall ⊢
  rw [← Nat.div_div_eq_div_mul, ← Nat.div_div_eq_div_mul, inSmall]

/-- Blocks are nested or disjoint. -/
theorem alignedBlock_subset_or_disjoint :
    alignedBlock small left ⊆ alignedBlock large right ∨
      Disjoint (alignedBlock small left) (alignedBlock large right) := by
  by_cases meet :
      (alignedBlock small left ∩ alignedBlock large right).Nonempty
  · left
    obtain ⟨common, inLeft, inRight⟩ := meet
    rw [← alignedBlock_eq inLeft, ← alignedBlock_eq inRight]
    exact alignedBlock_subset divides
  · right
    exact Set.disjoint_iff_inter_eq_empty.mpr
      (Set.not_nonempty_iff_eq_empty.mp meet)

theorem alignedBlock_meet_iff (positive : 0 < small) :
    (alignedBlock small left ∩ alignedBlock large right).Nonempty ↔
      blockStart small left ∈ alignedBlock large right := by
  constructor
  · intro meet
    rcases alignedBlock_subset_or_disjoint divides with nested | disjoint
    · exact nested (blockStart_mem positive)
    · exact absurd disjoint (Set.not_disjoint_iff_nonempty_inter.mpr meet)
  · intro member
    exact ⟨_, blockStart_mem positive, member⟩

end Divides

/-- Two blocks of comparable sizes meet exactly if one holds the start of the
other. -/
theorem alignedBlock_meet_iff_start_mem (leftPositive : 0 < small)
    (rightPositive : 0 < large) (comparable : small ∣ large ∨ large ∣ small) :
    (alignedBlock small left ∩ alignedBlock large right).Nonempty ↔
      blockStart large right ∈ alignedBlock small left ∨
        blockStart small left ∈ alignedBlock large right := by
  constructor
  · intro meet
    rcases comparable with divides | divides
    · exact .inr ((alignedBlock_meet_iff divides leftPositive).mp meet)
    · rw [Set.inter_comm] at meet
      exact .inl ((alignedBlock_meet_iff divides rightPositive).mp meet)
  · intro holds
    rcases holds with start | start
    · exact ⟨_, start, blockStart_mem rightPositive⟩
    · exact ⟨_, blockStart_mem leftPositive, start⟩

end NetworkManager.Foundation
