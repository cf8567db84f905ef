/-
Sampling below a bound by multiplication.

A draw below a modulus is multiplied by the bound. The quotient of the product
by the modulus is the sample; the draw is accepted when the remainder lies
below a multiple of the bound that fits in the modulus. The accepted draws of
one sample are consecutive, and there are as many of them as the multiple
counts.
-/

import Mathlib.Data.Finset.Card
import Mathlib.Order.Interval.Finset.Nat
import Mathlib.Algebra.BigOperators.Group.Finset.Basic

namespace Foundation

namespace Widening

/-- The draw is accepted for the factor. -/
def Accepted (modulus bound factor draw : Nat) : Prop :=
  draw * bound % modulus < bound * factor

instance (modulus bound factor draw : Nat) :
    Decidable (Accepted modulus bound factor draw) :=
  inferInstanceAs (Decidable (_ < _))

/-- The sample of a draw. -/
def sample (modulus bound draw : Nat) : Nat :=
  draw * bound / modulus

/-- The first draw of a sample. -/
def firstDraw (modulus bound value : Nat) : Nat :=
  (value * modulus + bound - 1) / bound

theorem sample_lt {modulus bound draw : Nat} (below : draw < modulus)
    (positive : 0 < bound) : sample modulus bound draw < bound := by
  have product : draw * bound < modulus * bound :=
    Nat.mul_lt_mul_of_pos_right below positive
  exact Nat.div_lt_of_lt_mul product

theorem firstDraw_le_iff {modulus bound value draw : Nat}
    (positive : 0 < bound) :
    firstDraw modulus bound value ≤ draw ↔ value * modulus ≤ draw * bound := by
  unfold firstDraw
  rw [← Nat.lt_succ_iff, Nat.div_lt_iff_lt_mul positive, Nat.succ_mul]
  omega

/-- The accepted draws of a sample are those whose products lie in one
interval. -/
theorem accepted_iff {modulus bound factor value draw : Nat}
    (fits : bound * factor ≤ modulus) :
    (Accepted modulus bound factor draw ∧
        sample modulus bound draw = value) ↔
      (value * modulus ≤ draw * bound ∧
        draw * bound < value * modulus + bound * factor) := by
  have parts := Nat.div_add_mod' (draw * bound) modulus
  unfold Accepted sample
  constructor
  · rintro ⟨low, quotient⟩
    rw [quotient] at parts
    omega
  · rintro ⟨least, most⟩
    have quotient : draw * bound / modulus = value := by
      apply Nat.div_eq_of_lt_le least
      rw [Nat.succ_mul]
      omega
    rw [quotient] at parts
    constructor
    · omega
    · exact quotient

/-- The accepted draws of one sample are a block of consecutive draws. -/
theorem accepted_block {modulus bound factor value draw : Nat}
    (fits : bound * factor ≤ modulus) (positive : 0 < bound) :
    (Accepted modulus bound factor draw ∧
        sample modulus bound draw = value) ↔
      (firstDraw modulus bound value ≤ draw ∧
        draw < firstDraw modulus bound value + factor) := by
  rw [accepted_iff fits, firstDraw_le_iff positive]
  apply and_congr Iff.rfl
  by_cases early : draw < factor
  · have product : draw * bound < bound * factor := by
      rw [Nat.mul_comm draw bound]
      exact Nat.mul_lt_mul_of_pos_left early positive
    constructor
    · intro _
      omega
    · intro _
      omega
  · -- A draw is past the block when the draw one block earlier has reached it.
    have earlier : ¬ firstDraw modulus bound value ≤ draw - factor ↔
        draw < firstDraw modulus bound value + factor := by
      omega
    have product : (draw - factor) * bound = draw * bound - bound * factor := by
      rw [Nat.sub_mul, Nat.mul_comm factor bound]
    have smaller : bound * factor ≤ draw * bound := by
      rw [Nat.mul_comm draw bound]
      exact Nat.mul_le_mul_left bound (Nat.le_of_not_lt early)
    rw [← earlier, firstDraw_le_iff positive, product]
    omega

/-- The draws of every sample lie below the modulus. -/
theorem block_lt {modulus bound factor value draw : Nat}
    (fits : bound * factor ≤ modulus) (below : value < bound)
    (most : draw * bound < value * modulus + bound * factor) :
    draw < modulus := by
  have next : (value + 1) * modulus ≤ bound * modulus :=
    Nat.mul_le_mul_right modulus below
  have product : draw * bound < modulus * bound := by
    rw [Nat.mul_comm modulus bound]
    rw [Nat.succ_mul] at next
    omega
  exact Nat.lt_of_mul_lt_mul_right product

/-- Each sample has as many accepted draws as the factor says. -/
theorem card_sample {modulus bound factor value : Nat}
    (fits : bound * factor ≤ modulus) (below : value < bound) :
    ((Finset.range modulus).filter fun draw =>
        Accepted modulus bound factor draw ∧
          sample modulus bound draw = value).card = factor := by
  have boundPositive : 0 < bound := Nat.zero_lt_of_lt below
  have block : ((Finset.range modulus).filter fun draw =>
      Accepted modulus bound factor draw ∧
        sample modulus bound draw = value) =
      Finset.Ico (firstDraw modulus bound value)
        (firstDraw modulus bound value + factor) := by
    ext draw
    rw [Finset.mem_filter, Finset.mem_range, Finset.mem_Ico,
      ← accepted_block fits boundPositive]
    constructor
    · intro both
      exact both.2
    · intro taken
      have product := (accepted_iff fits).mp taken
      exact ⟨block_lt fits below product.2, taken⟩
  rw [block, Nat.card_Ico, Nat.add_sub_cancel_left]

/-- The accepted draws, all samples together. -/
theorem card_accepted {modulus bound factor : Nat}
    (fits : bound * factor ≤ modulus) (positive : 0 < bound) :
    ((Finset.range modulus).filter
        (Accepted modulus bound factor)).card = bound * factor := by
  have into : ∀ draw ∈ (Finset.range modulus).filter
      (Accepted modulus bound factor),
      sample modulus bound draw ∈ Finset.range bound := by
    intro draw member
    have below := Finset.mem_range.mp (Finset.mem_filter.mp member).1
    exact Finset.mem_range.mpr (sample_lt below positive)
  rw [Finset.card_eq_sum_card_fiberwise into]
  have each : ∀ value ∈ Finset.range bound,
      (((Finset.range modulus).filter
        (Accepted modulus bound factor)).filter fun draw =>
          sample modulus bound draw = value).card = factor := by
    intro value member
    rw [Finset.filter_filter]
    exact card_sample fits (Finset.mem_range.mp member)
  rw [Finset.sum_const_nat each, Finset.card_range]

end Widening

end Foundation
