/-
Checked arithmetic and conversions between the fixed-width integers.

Each operation has one lemma: it returns a word exactly when the word has the
mathematical result as its value.
-/

import Mathlib.Data.Int.Order.Basic
import Mathlib.Order.Lattice
import OxideWorkloads.Foundation.TextFunctions

namespace Foundation

/-- A signed 64-bit integer, by its value. -/
abbrev Bigint := { value : Int // i64Min ≤ value ∧ value ≤ i64Max }

namespace Word

def checkedAdd (left right : UInt64) : Option UInt64 :=
  if left.toNat + right.toNat ≤ u64Max then some (left + right) else none

def checkedMul (left right : UInt64) : Option UInt64 :=
  if left.toNat * right.toNat ≤ u64Max then some (left * right) else none

/-- The value as a signed 64-bit integer, if it fits. -/
def toBigint? (value : Int) : Option Bigint :=
  if fits : i64Min ≤ value ∧ value ≤ i64Max then some ⟨value, fits⟩ else none

/-- The value as an unsigned 16-bit integer, if it fits. -/
def toU16? (value : UInt64) : Option UInt16 :=
  if value.toNat < 65536 then some value.toUInt16 else none

/-- The value as an unsigned 64-bit integer, if it is not negative. -/
def toU64? (value : Bigint) : Option UInt64 :=
  if 0 ≤ value.val then some (UInt64.ofNat value.val.toNat) else none

theorem checkedAdd_eq_some {left right sum : UInt64} :
    checkedAdd left right = some sum ↔
      left.toNat + right.toNat = sum.toNat := by
  have bound : u64Max = 18446744073709551615 := rfl
  unfold checkedAdd
  split
  · rename_i fits
    have value : (left + right).toNat = left.toNat + right.toNat := by
      rw [UInt64.toNat_add, Nat.mod_eq_of_lt (by omega)]
    rw [Option.some.injEq, ← UInt64.toNat_inj, value]
  · have limit := sum.toNat_lt
    simp only [reduceCtorEq, false_iff]
    omega

theorem checkedMul_eq_some {left right product : UInt64} :
    checkedMul left right = some product ↔
      left.toNat * right.toNat = product.toNat := by
  have bound : u64Max = 18446744073709551615 := rfl
  unfold checkedMul
  split
  · rename_i fits
    have value : (left * right).toNat = left.toNat * right.toNat := by
      rw [UInt64.toNat_mul, Nat.mod_eq_of_lt (by omega)]
    rw [Option.some.injEq, ← UInt64.toNat_inj, value]
  · have limit := product.toNat_lt
    simp only [reduceCtorEq, false_iff]
    omega

theorem toBigint?_eq_some {value : Int} {word : Bigint} :
    toBigint? value = some word ↔ word.val = value := by
  unfold toBigint?
  split
  · rw [Option.some.injEq]
    constructor
    · intro same
      rw [← same]
    · intro same
      exact Subtype.ext same.symm
  · rename_i outside
    simp only [reduceCtorEq, false_iff]
    intro same
    apply outside
    rw [← same]
    exact word.property

theorem toU16?_eq_some {value : UInt64} {word : UInt16} :
    toU16? value = some word ↔ word.toNat = value.toNat := by
  unfold toU16?
  split
  · rename_i fits
    have low : value.toUInt16.toNat = value.toNat := by
      rw [UInt64.toNat_toUInt16, Nat.mod_eq_of_lt (by omega)]
    rw [Option.some.injEq, ← UInt16.toNat_inj, low, eq_comm]
  · have limit := word.toNat_lt
    simp only [reduceCtorEq, false_iff]
    omega

theorem toU64?_eq_some {value : Bigint} {word : UInt64} :
    toU64? value = some word ↔ (word.toNat : Int) = value.val := by
  have low : i64Min = -9223372036854775808 := rfl
  have high : i64Max = 9223372036854775807 := rfl
  have range := value.property
  unfold toU64?
  split
  · have number : (UInt64.ofNat value.val.toNat).toNat =
        value.val.toNat := by
      rw [UInt64.toNat_ofNat', Nat.mod_eq_of_lt (by omega)]
    rw [Option.some.injEq, ← UInt64.toNat_inj, number]
    omega
  · simp only [reduceCtorEq, false_iff]
    omega

end Word

end Foundation
