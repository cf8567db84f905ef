/-
Texts as sequences of UTF-16 code units, trimmed unit by unit.

A unit of a surrogate pair is above every control character, so trimming the
units up to the space trims the characters up to the space.
-/

import Mathlib.Data.List.DropRight
import OxideWorkloads.Foundation.TextFunctions

namespace Foundation

/-! ### Trimming -/

section Trimming

variable {α : Type}

/-- A list without the entries at its ends that a condition selects. -/
def trimBy (dropped : α → Bool) (entries : List α) : List α :=
  ((entries.dropWhile dropped).reverse.dropWhile dropped).reverse

theorem trimBy_eq_nil {dropped : α → Bool} {entries : List α} :
    trimBy dropped entries = [] ↔ ∀ entry ∈ entries, dropped entry = true := by
  have inner : (∀ entry ∈ entries.dropWhile dropped, dropped entry = true) ↔
      entries.dropWhile dropped = [] := by
    rw [← List.dropWhile_eq_nil_iff, List.dropWhile_idempotent]
  unfold trimBy
  rw [List.reverse_eq_nil_iff, List.dropWhile_eq_nil_iff]
  simp only [List.mem_reverse]
  rw [inner, List.dropWhile_eq_nil_iff]

end Trimming

namespace Utf16

/-- The code units of a character: one, or a surrogate pair. -/
def units (char : Char) : List UInt16 :=
  let code := char.toNat
  if code < 0x10000 then [UInt16.ofNat code]
  else
    [UInt16.ofNat (0xD800 + (code - 0x10000) / 0x400),
      UInt16.ofNat (0xDC00 + (code - 0x10000) % 0x400)]

def encode (text : String) : List UInt16 := text.toList.flatMap units

/-- The units without those up to the space at both ends. -/
def trim (text : List UInt16) : List UInt16 :=
  trimBy (fun unit => unit ≤ 0x20) text

theorem units_low {char : Char} :
    (∀ unit ∈ units char, unit ≤ 0x20) ↔ char.toNat ≤ 0x20 := by
  have scalar : char.toNat < 0x110000 := by
    rcases char.valid with low | high
    · exact Nat.lt_trans low (by decide)
    · exact high.2
  have space : (0x20 : UInt16).toNat = 32 := rfl
  unfold units
  dsimp only
  split
  · rename_i small
    simp only [List.mem_singleton, forall_eq, UInt16.le_iff_toNat_le, space]
    rw [UInt16.toNat_ofNat', Nat.mod_eq_of_lt small]
  · rename_i large
    simp only [List.mem_cons, List.not_mem_nil, or_false, forall_eq_or_imp,
      forall_eq, UInt16.le_iff_toNat_le, space]
    rw [UInt16.toNat_ofNat', UInt16.toNat_ofNat']
    omega

theorem trim_encode_eq_nil {text : String} :
    trim (encode text) = [] ↔
      ∀ char ∈ text.toList, char.toNat ≤ 0x20 := by
  unfold trim encode
  rw [trimBy_eq_nil]
  constructor
  · intro all char member
    apply units_low.mp
    intro unit inside
    exact of_decide_eq_true
      (all unit (List.mem_flatMap.mpr ⟨char, member, inside⟩))
  · intro low unit member
    obtain ⟨char, inside, isUnit⟩ := List.mem_flatMap.mp member
    exact decide_eq_true (units_low.mpr (low char inside) unit isUnit)

/-! ### Decoding -/

def isHighSurrogate (unit : UInt16) : Bool :=
  0xD800 ≤ unit.toNat && unit.toNat < 0xDC00

def isLowSurrogate (unit : UInt16) : Bool :=
  0xDC00 ≤ unit.toNat && unit.toNat < 0xE000

/-- A unit that is not part of a pair; half a pair becomes a question mark. -/
def lone (unit : UInt16) : Char :=
  if isHighSurrogate unit || isLowSurrogate unit then '?'
  else Char.ofNat unit.toNat

def joined (high low : UInt16) : Char :=
  Char.ofNat (0x10000 + (high.toNat - 0xD800) * 0x400 + (low.toNat - 0xDC00))

def decode : List UInt16 → List Char
  | [] => []
  | [unit] => [lone unit]
  | unit :: next :: rest =>
      if isHighSurrogate unit && isLowSurrogate next then
        joined unit next :: decode rest
      else lone unit :: decode (next :: rest)

theorem lone_small {char : Char} (small : char.toNat < 0x10000) :
    isHighSurrogate (UInt16.ofNat char.toNat) = false ∧
      lone (UInt16.ofNat char.toNat) = char := by
  have value : (UInt16.ofNat char.toNat).toNat = char.toNat := by
    rw [UInt16.toNat_ofNat', Nat.mod_eq_of_lt small]
  have scalar : char.toNat < 0xD800 ∨ 0xDFFF < char.toNat := by
    rcases char.valid with low | high
    · exact Or.inl low
    · exact Or.inr high.1
  have notHigh : isHighSurrogate (UInt16.ofNat char.toNat) = false := by
    rw [isHighSurrogate, value, Bool.and_eq_false_iff, decide_eq_false_iff_not,
      decide_eq_false_iff_not]
    omega
  have notLow : isLowSurrogate (UInt16.ofNat char.toNat) = false := by
    rw [isLowSurrogate, value, Bool.and_eq_false_iff, decide_eq_false_iff_not,
      decide_eq_false_iff_not]
    omega
  constructor
  · exact notHigh
  · rw [lone, notHigh, notLow, Bool.or_self, if_neg Bool.false_ne_true, value]
    exact Char.ofNat_toNat char

theorem joined_large {char : Char} (large : 0x10000 ≤ char.toNat) :
    isHighSurrogate (UInt16.ofNat (0xD800 + (char.toNat - 0x10000) / 0x400)) =
        true ∧
      isLowSurrogate (UInt16.ofNat (0xDC00 + (char.toNat - 0x10000) % 0x400)) =
        true ∧
      joined (UInt16.ofNat (0xD800 + (char.toNat - 0x10000) / 0x400))
        (UInt16.ofNat (0xDC00 + (char.toNat - 0x10000) % 0x400)) = char := by
  have scalar : char.toNat < 0x110000 := by
    rcases char.valid with low | high
    · exact Nat.lt_trans low (by decide)
    · exact high.2
  have high : (UInt16.ofNat
      (0xD800 + (char.toNat - 0x10000) / 0x400)).toNat =
        0xD800 + (char.toNat - 0x10000) / 0x400 := by
    rw [UInt16.toNat_ofNat', Nat.mod_eq_of_lt (by omega)]
  have low : (UInt16.ofNat
      (0xDC00 + (char.toNat - 0x10000) % 0x400)).toNat =
        0xDC00 + (char.toNat - 0x10000) % 0x400 := by
    rw [UInt16.toNat_ofNat', Nat.mod_eq_of_lt (by omega)]
  have code : 0x10000 +
      (0xD800 + (char.toNat - 0x10000) / 0x400 - 0xD800) * 0x400 +
        (0xDC00 + (char.toNat - 0x10000) % 0x400 - 0xDC00) = char.toNat := by
    omega
  unfold isHighSurrogate isLowSurrogate joined
  rw [high, low, code, Bool.and_eq_true_iff, Bool.and_eq_true_iff]
  simp only [decide_eq_true_iff]
  exact ⟨by omega, by omega, Char.ofNat_toNat char⟩

theorem decode_units (char : Char) (rest : List UInt16) :
    decode (units char ++ rest) = char :: decode rest := by
  unfold units
  dsimp only
  split
  · rename_i small
    obtain ⟨notHigh, same⟩ := lone_small small
    cases rest with
    | nil =>
        change [lone (UInt16.ofNat char.toNat)] = [char]
        rw [same]
    | cons next rest =>
        rw [List.singleton_append, decode, notHigh, Bool.false_and,
          if_neg Bool.false_ne_true, same]
  · rename_i large
    obtain ⟨high, low, same⟩ := joined_large (Nat.le_of_not_lt large)
    rw [List.cons_append, List.singleton_append, decode, high, low,
      Bool.and_self, if_pos rfl, same]

theorem decode_encode (text : String) :
    decode (encode text) = text.toList := by
  unfold encode
  induction text.toList with
  | nil => rfl
  | cons char rest ih => rw [List.flatMap_cons, decode_units, ih]

end Utf16

end Foundation
