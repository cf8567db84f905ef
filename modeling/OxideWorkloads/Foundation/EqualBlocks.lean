/-
Consecutive blocks of one width over the numbers from one on.

Block `index` of width `width` holds the numbers from `index * width + 1` to
`index * width + width`.  Division finds the block of a number, and a list
without repetitions that has as many entries in a range as the range is long
holds the whole range.
-/

import Mathlib.Data.Finset.Card
import Mathlib.Data.Int.Interval

namespace Foundation

namespace EqualBlocks

/-- A number lies in a block. -/
def Within (width index number : Nat) : Prop :=
  index * width + 1 ≤ number ∧ number ≤ index * width + width

instance (width index number : Nat) : Decidable (Within width index number) :=
  inferInstanceAs (Decidable (_ ∧ _))

/-- Division finds the block. -/
theorem within_iff {width index number : Nat} (positive : 0 < width)
    (counted : 1 ≤ number) :
    Within width index number ↔ (number - 1) / width = index := by
  unfold Within
  rw [Nat.div_eq_iff positive]
  omega

theorem within_unique {width first second number : Nat}
    (positive : 0 < width) (inFirst : Within width first number)
    (inSecond : Within width second number) : first = second := by
  have counted : 1 ≤ number := le_trans (Nat.le_add_left _ _) inFirst.1
  rw [← (within_iff positive counted).mp inFirst,
    ← (within_iff positive counted).mp inSecond]

/-- The last number of a block comes before the next block. -/
theorem last_lt_first {width first second : Nat} (before : first < second) :
    first * width + width ≤ second * width := by
  have scaled := Nat.mul_le_mul_right width (Nat.succ_le_of_lt before)
  rw [Nat.succ_mul] at scaled
  exact scaled

/-- The blocks below `count` hold the numbers up to `count * width`. -/
theorem covered_iff {width count number : Nat} (positive : 0 < width) :
    (∃ index < count, Within width index number) ↔
      1 ≤ number ∧ number ≤ count * width := by
  constructor
  · intro found
    obtain ⟨index, below, low, high⟩ := found
    have last : index * width + width ≤ count * width := last_lt_first below
    omega
  · intro range
    refine ⟨(number - 1) / width, ?_, (within_iff positive range.1).mpr rfl⟩
    rw [Nat.div_lt_iff_lt_mul positive]
    omega

/-- A repetition-free list with as many entries in a range as the range is
long holds every number of the range. -/
theorem holds_of_count {numbers : List Int} {first last : Int}
    (distinct : numbers.Nodup)
    (count : (numbers.filter
      (fun number => first ≤ number ∧ number ≤ last)).length =
        (last + 1 - first).toNat) :
    ∀ number, first ≤ number → number ≤ last → number ∈ numbers := by
  have inside : (numbers.filter
      (fun number => first ≤ number ∧ number ≤ last)).toFinset ⊆
        Finset.Icc first last := by
    intro number member
    simp only [List.mem_toFinset, List.mem_filter,
      decide_eq_true_eq] at member
    exact Finset.mem_Icc.mpr member.2
  have size : (Finset.Icc first last).card ≤ (numbers.filter
      (fun number => first ≤ number ∧ number ≤ last)).toFinset.card := by
    rw [List.toFinset_card_of_nodup (distinct.filter _), count, Int.card_Icc]
  have whole := Finset.eq_of_subset_of_card_le inside size
  intro number low high
  have member : number ∈ Finset.Icc first last :=
    Finset.mem_Icc.mpr ⟨low, high⟩
  rw [← whole, List.mem_toFinset] at member
  exact List.mem_of_mem_filter member

/-- A repetition-free list that holds a range has as many entries in it as
the range is long. -/
theorem count_of_holds {numbers : List Int} {first last : Int}
    (distinct : numbers.Nodup)
    (holds : ∀ number, first ≤ number → number ≤ last → number ∈ numbers) :
    (numbers.filter
      (fun number => first ≤ number ∧ number ≤ last)).length =
        (last + 1 - first).toNat := by
  rw [← Int.card_Icc, ← List.toFinset_card_of_nodup (distinct.filter _)]
  congr 1
  ext number
  simp only [List.mem_toFinset, List.mem_filter, decide_eq_true_eq,
    Finset.mem_Icc]
  constructor
  · intro member
    exact member.2
  · intro range
    exact ⟨holds number range.1 range.2, range⟩

/-- A repetition-free list that holds a range and is as long as the range
holds nothing else. -/
theorem bounded_of_length {numbers : List Int} {first last : Int}
    (distinct : numbers.Nodup)
    (holds : ∀ number, first ≤ number → number ≤ last → number ∈ numbers)
    (length : numbers.length = (last + 1 - first).toNat) :
    ∀ number ∈ numbers, first ≤ number ∧ number ≤ last := by
  have inside : Finset.Icc first last ⊆ numbers.toFinset := by
    intro number member
    have range := Finset.mem_Icc.mp member
    exact List.mem_toFinset.mpr (holds number range.1 range.2)
  have size : numbers.toFinset.card ≤ (Finset.Icc first last).card := by
    rw [List.toFinset_card_of_nodup distinct, length, Int.card_Icc]
  have whole := Finset.eq_of_subset_of_card_le inside size
  intro number member
  have listed := List.mem_toFinset.mpr member
  rw [← whole] at listed
  exact Finset.mem_Icc.mp listed

end EqualBlocks

end Foundation
