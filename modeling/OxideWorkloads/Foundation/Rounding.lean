/-
Division rounded to a binary floating-point format.

The quotient of two naturals is rounded once, to the nearest number of the
format; half way between two, to the one whose mantissa is even.  The ceiling
of a rounded quotient is that of the exact one as long as the dividend has no
more digits than a mantissa.
-/

import Mathlib.Algebra.Order.Floor.Div
import Mathlib.Data.Nat.Log
import Mathlib.Tactic.Linarith
import Mathlib.Tactic.Ring

namespace Foundation

namespace Rounding

/-- The digits of a mantissa, the exponent of the last place of the smallest
numbers, and the power of two below which the numbers are; one is a number with
all its digits. -/
structure Format where
  precision : Nat
  least : Int
  limit : Nat
  positive : 0 < precision
  wide : least + precision ≤ 1

def binary64 : Format :=
  { precision := 53
    least := -1074
    limit := 1024
    positive := by decide
    wide := by decide }

/-- The number `mantissa * 2 ^ exponent`. -/
structure Scaled where
  mantissa : Int
  exponent : Int
  deriving DecidableEq

/-- The least integer that is not below. -/
def Scaled.ceil (value : Scaled) : Int :=
  -(-(value.mantissa * 2 ^ value.exponent.toNat) /
    2 ^ (-value.exponent).toNat)

/-- The integer nearest to a quotient, the even one of two. -/
def nearestEven (num den : Nat) : Nat :=
  if 2 * (num % den) < den then num / den
  else if den < 2 * (num % den) then num / den + 1
  else num / den + num / den % 2

/-- The exponent of the leading digit of a quotient. -/
def leading (num den : Nat) : Int :=
  if den ≤ num then ((num / den).log2 : Nat)
  else -(Nat.clog 2 (den ⌈/⌉ num) : Nat)

/-- The exponent of the last place that a quotient is rounded to. -/
def place (format : Format) (num den : Nat) : Int :=
  max (leading num den + 1 - format.precision) format.least

def mantissa (format : Format) (num den : Nat) : Nat :=
  nearestEven (num * 2 ^ (-place format num den).toNat)
    (den * 2 ^ (place format num den).toNat)

/-- The rounded quotient, if the format reaches that far. -/
def quotient? (format : Format) (num den : Nat) : Option Scaled :=
  if mantissa format num den * 2 ^ (place format num den).toNat <
      2 ^ format.limit * 2 ^ (-place format num den).toNat then
    some { mantissa := mantissa format num den
           exponent := place format num den }
  else none

/-! ### The nearest integer -/

theorem nearestEven_ge {num den low : Nat} (positive : 0 < den)
    (above : low * den ≤ num) : low ≤ nearestEven num den := by
  have floor := (Nat.le_div_iff_mul_le positive).mpr above
  unfold nearestEven
  split
  · exact floor
  · split <;> omega

theorem nearestEven_le {num den high : Nat} (positive : 0 < den)
    (below : num ≤ high * den) : nearestEven num den ≤ high := by
  have floor := Nat.div_add_mod num den
  have small := Nat.mod_lt num positive
  unfold nearestEven
  rcases Nat.lt_or_ge (num / den) high with under | reached
  · split
    · omega
    · split <;> omega
  · have product := Nat.mul_le_mul_left den reached
    rw [Nat.mul_comm den high] at product
    rw [if_pos (by omega)]
    by_contra beyond
    have more := Nat.mul_le_mul_left den (Nat.lt_of_not_le beyond)
    rw [Nat.mul_succ, Nat.mul_comm den high] at more
    omega

/-- More than half of the way to the next integer. -/
theorem nearestEven_up {num den low : Nat} (positive : 0 < den)
    (above : 2 * (low * den) + den < 2 * num) :
    low < nearestEven num den := by
  have floor := Nat.div_add_mod num den
  have reached : low ≤ num / den :=
    (Nat.le_div_iff_mul_le positive).mpr (by omega)
  unfold nearestEven
  rcases Nat.lt_or_ge low (num / den) with under | same
  · split
    · exact under
    · split <;> omega
  · have here : num / den = low := Nat.le_antisymm same reached
    rw [here, Nat.mul_comm den low] at floor
    rw [if_neg (by omega), if_pos (by omega), here]
    exact Nat.lt_succ_self low

/-! ### The leading digit -/

theorem leading_of_le {num den : Nat} (positive : 0 < den)
    (above : den ≤ num) :
    ∃ exponent : Nat, leading num den = exponent ∧
      2 ^ exponent * den ≤ num ∧ num < 2 ^ (exponent + 1) * den := by
  have quotient : num / den ≠ 0 :=
    Nat.pos_iff_ne_zero.mp (Nat.div_pos above positive)
  refine ⟨(num / den).log2, ?_, ?_, ?_⟩
  · unfold leading
    rw [if_pos above]
  · exact (Nat.le_div_iff_mul_le positive).mp (Nat.log2_self_le quotient)
  · exact (Nat.div_lt_iff_lt_mul positive).mp Nat.lt_log2_self

theorem leading_of_lt {num den : Nat} (positive : 0 < num)
    (below : num < den) :
    ∃ exponent : Nat, leading num den = -exponent ∧
      den ≤ num * 2 ^ exponent := by
  refine ⟨Nat.clog 2 (den ⌈/⌉ num), ?_, ?_⟩
  · unfold leading
    rw [if_neg (Nat.not_le_of_lt below)]
  · have reached := Nat.le_pow_clog (by decide : 1 < 2) (den ⌈/⌉ num)
    exact (ceilDiv_le_iff_le_mul positive).mp reached

/-! ### Ceilings -/

theorem ceil_le_iff (mantissa bound : Nat) (exponent : Int) :
    Scaled.ceil { mantissa := mantissa, exponent } ≤ bound ↔
      mantissa * 2 ^ exponent.toNat ≤
        bound * 2 ^ (-exponent).toNat := by
  have positive : (0 : Int) < 2 ^ (-exponent).toNat := by positivity
  have cast : ((mantissa * 2 ^ exponent.toNat : Nat) : Int) ≤
      ((bound * 2 ^ (-exponent).toNat : Nat) : Int) ↔
        mantissa * 2 ^ exponent.toNat ≤ bound * 2 ^ (-exponent).toNat :=
    Int.ofNat_le
  rw [← cast]
  push_cast
  unfold Scaled.ceil
  dsimp only
  rw [neg_le, Int.le_ediv_iff_mul_le positive, neg_mul, neg_le_neg_iff]

theorem ceil_nonneg (mantissa : Nat) (exponent : Int) :
    0 ≤ Scaled.ceil { mantissa := mantissa, exponent } := by
  unfold Scaled.ceil
  dsimp only
  have product : (0 : Int) ≤ mantissa * 2 ^ exponent.toNat := by positivity
  have divisor : (0 : Int) < 2 ^ (-exponent).toNat := by positivity
  have quotient := Int.ediv_nonpos_of_nonpos_of_neg
    (neg_nonpos.mpr product) divisor
  omega

theorem lt_ceil_iff (mantissa bound : Nat) (exponent : Int) :
    (bound : Int) < Scaled.ceil { mantissa := mantissa, exponent } ↔
      bound * 2 ^ (-exponent).toNat < mantissa * 2 ^ exponent.toNat := by
  rw [← not_le, ceil_le_iff, not_le]

/-! ### Rounded quotients -/

section Quotient

variable {format : Format} {num den : Nat}

/-- The ceiling of a rounded quotient. -/
def ceiling (format : Format) (num den : Nat) : Int :=
  Scaled.ceil { mantissa := mantissa format num den
                exponent := place format num den }

theorem place_eq {exponent : Nat} (leads : leading num den = exponent) :
    place format num den = exponent + 1 - format.precision := by
  have wide := format.wide
  unfold place
  rw [leads]
  omega

/-- Where the leading digit of the quotient is, there that of its mantissa
is. -/
theorem scale_eq {exponent : Nat} (leads : leading num den = exponent) :
    2 ^ exponent * 2 ^ (-place format num den).toNat =
      2 ^ (format.precision - 1) * 2 ^ (place format num den).toNat := by
  have positive := format.positive
  have same := @place_eq format num den exponent leads
  rw [← Nat.pow_add, ← Nat.pow_add]
  congr 1
  omega

theorem mantissa_ge (positive : 0 < den) {exponent : Nat}
    (leads : leading num den = exponent) (above : 2 ^ exponent * den ≤ num) :
    2 ^ (format.precision - 1) ≤ mantissa format num den := by
  apply nearestEven_ge (Nat.mul_pos positive (Nat.two_pow_pos _))
  calc
    2 ^ (format.precision - 1) * (den * 2 ^ (place format num den).toNat)
      = 2 ^ (format.precision - 1) * 2 ^ (place format num den).toNat *
          den := by ring
    _ = 2 ^ exponent * den * 2 ^ (-place format num den).toNat := by
        rw [← scale_eq leads]
        ring
    _ ≤ num * 2 ^ (-place format num den).toNat :=
        Nat.mul_le_mul_right _ above

theorem mantissa_le (positive : 0 < den) {exponent : Nat}
    (leads : leading num den = exponent) {high : Nat}
    (below : num ≤ high * 2 ^ exponent * den) :
    mantissa format num den ≤ high * 2 ^ (format.precision - 1) := by
  apply nearestEven_le (Nat.mul_pos positive (Nat.two_pow_pos _))
  calc
    num * 2 ^ (-place format num den).toNat
      ≤ high * 2 ^ exponent * den * 2 ^ (-place format num den).toNat :=
        Nat.mul_le_mul_right _ below
    _ = high * (2 ^ exponent * 2 ^ (-place format num den).toNat) *
          den := by ring
    _ = high * 2 ^ (format.precision - 1) *
          (den * 2 ^ (place format num den).toNat) := by
        rw [scale_eq leads]
        ring

/-- Rounding does not leave the powers of two around a quotient. -/
theorem ceiling_ge (positive : 0 < den) {exponent : Nat}
    (leads : leading num den = exponent) (above : 2 ^ exponent * den ≤ num) :
    (2 ^ exponent : Nat) ≤ ceiling format num den := by
  have digits := @mantissa_ge format num den positive exponent leads above
  have scaled := Nat.mul_le_mul_right
    (2 ^ (place format num den).toNat) digits
  rw [← scale_eq leads] at scaled
  have power := Nat.two_pow_pos exponent
  have under : (2 ^ exponent - 1) * 2 ^ (-place format num den).toNat <
      2 ^ exponent * 2 ^ (-place format num den).toNat :=
    Nat.mul_lt_mul_of_pos_right (by omega) (Nat.two_pow_pos _)
  have more := (lt_ceil_iff (mantissa format num den) (2 ^ exponent - 1)
    (place format num den)).mpr (by omega)
  change _ < ceiling format num den at more
  omega

theorem ceiling_le (positive : 0 < den) {exponent : Nat}
    (leads : leading num den = exponent) {high : Nat}
    (below : num ≤ high * 2 ^ exponent * den) :
    ceiling format num den ≤ (high * 2 ^ exponent : Nat) := by
  have digits := @mantissa_le format num den positive exponent leads high
    below
  apply (ceil_le_iff _ _ _).mpr
  rw [Nat.mul_assoc, scale_eq leads, ← Nat.mul_assoc]
  exact Nat.mul_le_mul_right _ digits

/-- A quotient below one whose place is negative. -/
theorem ceiling_of_lt (dividend : 0 < num) (below : num < den)
    (reach : den ≤ 2 ^ (-format.least).toNat) :
    ceiling format num den = 1 := by
  have positive : 0 < den := by omega
  have digit := format.positive
  have wide := format.wide
  obtain ⟨exponent, leads, above⟩ := leading_of_lt dividend below
  have small : place format num den ≤ 0 := by
    unfold place
    rw [leads]
    omega
  have whole : (place format num den).toNat = 0 := by omega
  have enough : den ≤ num * 2 ^ (-place format num den).toNat := by
    rcases le_total (leading num den + 1 - format.precision) format.least with
      underflow | normal
    · have same : place format num den = format.least :=
        max_eq_right underflow
      rw [same]
      exact reach.trans (Nat.le_mul_of_pos_left _ dividend)
    · have same : place format num den =
          leading num den + 1 - format.precision := max_eq_left normal
      apply above.trans
      apply Nat.mul_le_mul_left
      apply Nat.pow_le_pow_right (by decide)
      omega
  have low : 1 ≤ mantissa format num den := by
    apply nearestEven_ge (Nat.mul_pos positive (Nat.two_pow_pos _))
    rw [whole]
    omega
  have high : mantissa format num den ≤
      2 ^ (-place format num den).toNat := by
    apply nearestEven_le (Nat.mul_pos positive (Nat.two_pow_pos _))
    rw [whole, Nat.pow_zero, Nat.mul_one, Nat.mul_comm]
    exact Nat.mul_le_mul_left _ (Nat.le_of_lt below)
  have least := (lt_ceil_iff (mantissa format num den) 0
    (place format num den)).mpr (by rw [whole]; omega)
  have most := (ceil_le_iff (mantissa format num den) 1
    (place format num den)).mpr (by rw [whole]; omega)
  change _ < ceiling format num den at least
  change ceiling format num den ≤ _ at most
  omega

theorem ceiling_zero (positive : 0 < den) : ceiling format 0 den = 0 := by
  have none_ : mantissa format 0 den ≤ 0 := by
    apply nearestEven_le (Nat.mul_pos positive (Nat.two_pow_pos _))
    omega
  have most := (ceil_le_iff (mantissa format 0 den) 0
    (place format 0 den)).mpr (by
      rw [Nat.le_zero.mp none_]
      omega)
  have least := ceil_nonneg (mantissa format 0 den) (place format 0 den)
  exact le_antisymm most least

theorem mantissa_eq (whole : (place format num den).toNat = 0) :
    mantissa format num den =
      nearestEven (num * 2 ^ (-place format num den).toNat) den := by
  unfold mantissa
  rw [whole, Nat.pow_zero, Nat.mul_one]

/-- A dividend that the format has in full. -/
theorem ceiling_exact (positive : 0 < den)
    (small : num ≤ 2 ^ format.precision)
    (reach : den ≤ 2 ^ (-format.least).toNat) :
    ceiling format num den = (num ⌈/⌉ den : Nat) := by
  rcases Nat.eq_zero_or_pos num with zero | dividend
  · rw [zero, ceiling_zero positive, zero_ceilDiv]
    rfl
  rcases Nat.lt_or_ge num den with below | above
  · rw [ceiling_of_lt dividend below reach]
    have one : num ⌈/⌉ den = 1 := by
      apply Nat.le_antisymm
      · exact (ceilDiv_le_iff_le_mul positive).mpr (by omega)
      · by_contra none_
        have covered := (ceilDiv_le_iff_le_mul positive).mp
          (Nat.le_of_lt_succ (Nat.lt_of_not_le none_))
        omega
    rw [one]
    rfl
  obtain ⟨exponent, leads, low, high⟩ := leading_of_le positive above
  have digits := format.positive
  rcases Nat.eq_or_lt_of_le low with whole | between
  · -- a power of two is exact, however large
    have ceil : num ⌈/⌉ den = 2 ^ exponent := by
      rw [← whole, Nat.mul_comm]
      exact smul_ceilDiv positive _
    have most := @ceiling_le format num den positive exponent leads 1 (by
      rw [Nat.one_mul]
      exact Nat.le_of_eq whole.symm)
    have least := @ceiling_ge format num den positive exponent leads low
    rw [ceil]
    rw [Nat.one_mul] at most
    exact le_antisymm most least
  · have power : 2 ^ exponent < 2 ^ format.precision := by
      apply Nat.lt_of_lt_of_le _ small
      exact Nat.lt_of_le_of_lt (Nat.le_mul_of_pos_right _ positive) between
    have shorter := (Nat.pow_lt_pow_iff_right (by decide)).mp power
    have same := @place_eq format num den exponent leads
    have whole : (place format num den).toNat = 0 := by omega
    have divisor : den < 2 * 2 ^ (-place format num den).toNat := by
      have product : 2 ^ exponent * den <
          2 ^ exponent * (2 * 2 ^ (-place format num den).toNat) := by
        apply Nat.lt_of_lt_of_le between
        apply small.trans
        rw [← Nat.pow_succ', ← Nat.pow_add]
        apply Nat.pow_le_pow_right (by decide)
        omega
      exact Nat.lt_of_mul_lt_mul_left product
    have rounded := @mantissa_eq format num den whole
    apply le_antisymm
    · apply (ceil_le_iff _ _ _).mpr
      rw [whole, Nat.pow_zero, Nat.mul_one, rounded]
      apply nearestEven_le positive
      have covered := (ceilDiv_le_iff_le_mul positive).mp
        (Nat.le_refl (num ⌈/⌉ den))
      calc
        num * 2 ^ (-place format num den).toNat
          ≤ den * (num ⌈/⌉ den) * 2 ^ (-place format num den).toNat :=
            Nat.mul_le_mul_right _ covered
        _ = num ⌈/⌉ den * 2 ^ (-place format num den).toNat * den := by ring
    · -- what exceeds the integer before rounds up to more than that integer
      have short : (num ⌈/⌉ den - 1) * den < num := by
        by_contra enough
        rw [not_lt, Nat.mul_comm] at enough
        have fewer := (ceilDiv_le_iff_le_mul positive).mpr enough
        have some_ : num ⌈/⌉ den ≠ 0 := by
          intro none_
          have covered := (ceilDiv_le_iff_le_mul positive).mp
            (Nat.le_of_eq none_)
          omega
        omega
      have scaled := Nat.mul_le_mul_right
        (2 ^ (-place format num den).toNat) short
      have up : (num ⌈/⌉ den - 1 : Nat) < ceiling format num den := by
        apply (lt_ceil_iff _ _ _).mpr
        rw [whole, Nat.pow_zero, Nat.mul_one, rounded]
        apply nearestEven_up positive
        rw [Nat.succ_mul] at scaled
        have order : (num ⌈/⌉ den - 1) *
            2 ^ (-place format num den).toNat * den =
              (num ⌈/⌉ den - 1) * den *
                2 ^ (-place format num den).toNat := by ring
        omega
      omega

/-- Rounding at most doubles. -/
theorem ceiling_le_twice (positive : 0 < den)
    (reach : den ≤ 2 ^ (-format.least).toNat) :
    ceiling format num den ≤ (2 * num : Nat) := by
  rcases Nat.eq_zero_or_pos num with zero | dividend
  · rw [zero, ceiling_zero positive]
    omega
  rcases Nat.lt_or_ge num den with below | above
  · rw [ceiling_of_lt dividend below reach]
    omega
  · obtain ⟨exponent, leads, low, high⟩ := leading_of_le positive above
    rw [Nat.pow_succ'] at high
    have most := @ceiling_le format num den positive exponent leads 2
      (Nat.le_of_lt high)
    have power := Nat.le_mul_of_pos_right (2 ^ exponent) positive
    omega

theorem quotient?_eq_some
    (reached : ceiling format num den < (2 ^ format.limit : Nat)) :
    quotient? format num den =
      some { mantissa := mantissa format num den
             exponent := place format num den } := by
  have limit := Nat.two_pow_pos format.limit
  have below := (ceil_le_iff (mantissa format num den) (2 ^ format.limit - 1)
    (place format num den)).mp (by
      change ceiling format num den ≤ _
      omega)
  apply if_pos
  apply Nat.lt_of_le_of_lt below
  exact Nat.mul_lt_mul_of_pos_right (by omega) (Nat.two_pow_pos _)

end Quotient

end Rounding

end Foundation
