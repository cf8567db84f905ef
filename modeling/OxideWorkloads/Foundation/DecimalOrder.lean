/-
The text order of zero-padded decimal numbers, and the texts of signed ones.

Texts of one length compare as the numbers that they write; a number that
outgrows the padding has a longer text, and the order of the texts is no
longer the order of the numbers.
-/

import Mathlib.Data.String.Basic
import OxideWorkloads.Foundation.TextFunctions

namespace Foundation

namespace Text

/-- The number that a list of digits writes. -/
def digitsValue (chars : List Char) : Nat := Nat.ofDigitChars 10 chars 0

theorem digitsValue_cons (char : Char) (rest : List Char) :
    digitsValue (char :: rest) =
      Nat.pow 10 rest.length * (char.toNat - 48) + digitsValue rest := by
  unfold digitsValue
  rw [Nat.ofDigitChars_cons, Nat.ofDigitChars_eq_ofDigitChars_zero,
    Nat.mul_zero, Nat.zero_add]
  rfl

theorem isDigit_range {char : Char} (digit : char.isDigit = true) :
    48 ≤ char.toNat ∧ char.toNat ≤ 57 := by
  simp only [Char.isDigit, Bool.and_eq_true, decide_eq_true_eq] at digit
  exact ⟨UInt32.le_iff_toNat_le.mp digit.1, UInt32.le_iff_toNat_le.mp digit.2⟩

theorem digitsValue_lt {chars : List Char}
    (digits : ∀ char ∈ chars, char.isDigit = true) :
    digitsValue chars < Nat.pow 10 chars.length := by
  induction chars with
  | nil => exact Nat.one_pos
  | cons char rest ih =>
      have parts := List.forall_mem_cons.mp digits
      have small := ih parts.2
      have range := isDigit_range parts.1
      have grows : Nat.pow 10 (rest.length + 1) =
          Nat.pow 10 rest.length * 10 := rfl
      have scaled := Nat.mul_le_mul_left (Nat.pow 10 rest.length)
        (by omega : char.toNat - 48 ≤ 9)
      rw [digitsValue_cons, List.length_cons, grows]
      omega

/-- Digits of one length compare as their numbers. -/
theorem digits_lt_iff {left right : List Char}
    (leftDigits : ∀ char ∈ left, char.isDigit = true)
    (rightDigits : ∀ char ∈ right, char.isDigit = true)
    (length : left.length = right.length) :
    left < right ↔ digitsValue left < digitsValue right := by
  induction left generalizing right with
  | nil =>
      have empty := List.eq_nil_of_length_eq_zero length.symm
      rw [empty]
      simp
  | cons first lefts ih =>
      cases right with
      | nil => cases length
      | cons second rights =>
          have sameLength : lefts.length = rights.length :=
            Nat.succ.inj length
          have leftParts := List.forall_mem_cons.mp leftDigits
          have rightParts := List.forall_mem_cons.mp rightDigits
          have leftSmall := digitsValue_lt leftParts.2
          have rightSmall := digitsValue_lt rightParts.2
          have firstRange := isDigit_range leftParts.1
          have secondRange := isDigit_range rightParts.1
          rw [List.cons_lt_cons_iff, ih leftParts.2 rightParts.2 sameLength,
            digitsValue_cons, digitsValue_cons, ← sameLength]
          rw [← sameLength] at rightSmall
          rcases Nat.lt_trichotomy first.toNat second.toNat with
            below | same | above
          · have scaled := Nat.mul_le_mul_left (Nat.pow 10 lefts.length)
              (by omega : first.toNat - 48 + 1 ≤ second.toNat - 48)
            rw [Nat.mul_succ] at scaled
            constructor
            · intro _
              omega
            · intro _
              exact Or.inl below
          · have equal : first = second := Char.toNat_inj.mp same
            rw [equal]
            constructor
            · intro order
              rcases order with impossible | tail
              · exact absurd impossible (lt_irrefl second)
              · omega
            · intro order
              exact Or.inr ⟨rfl, by omega⟩
          · have scaled := Nat.mul_le_mul_left (Nat.pow 10 lefts.length)
              (by omega : second.toNat - 48 + 1 ≤ first.toNat - 48)
            rw [Nat.mul_succ] at scaled
            constructor
            · intro order
              rcases order with impossible | tail
              · exact absurd impossible (Nat.lt_asymm above)
              · rw [tail.1] at above
                exact absurd above (Nat.lt_irrefl _)
            · intro order
              omega

theorem zeroPadded_length {width value : Nat} (positive : 0 < width)
    (fits : value < Nat.pow 10 width) :
    (zeroPadded width value).toList.length = width := by
  have short : (Nat.toDigits 10 value).length ≤ width :=
    (Nat.length_toDigits_le_iff (by omega) positive).mpr fits
  rw [zeroPadded_toList, List.length_append, List.length_replicate]
  omega

theorem digitsValue_zeroPadded (width value : Nat) :
    digitsValue (zeroPadded width value).toList = value := by
  unfold digitsValue
  rw [zeroPadded_toList, Nat.ofDigitChars_append,
    Nat.ofDigitChars_replicate_zero, Nat.mul_zero,
    Nat.ofDigitChars_toDigits (by omega) (by omega)]

/-- Padded numbers that fit the padding compare as numbers. -/
theorem zeroPadded_lt_iff {width left right : Nat} (positive : 0 < width)
    (leftFits : left < Nat.pow 10 width)
    (rightFits : right < Nat.pow 10 width) :
    zeroPadded width left < zeroPadded width right ↔ left < right := by
  have digits : ∀ value, ∀ char ∈ (zeroPadded width value).toList,
      char.isDigit = true :=
    fun value => List.all_eq_true.mp (zeroPadded_isAsciiDigits width value)
  rw [String.lt_iff_toList_lt,
    digits_lt_iff (digits left) (digits right)
      (by rw [zeroPadded_length positive leftFits,
        zeroPadded_length positive rightFits]),
    digitsValue_zeroPadded, digitsValue_zeroPadded]

/-- A common start does not change the order. -/
theorem append_lt_append_iff (start left right : String) :
    start ++ left < start ++ right ↔ left < right := by
  rw [String.lt_iff_toList_lt, String.lt_iff_toList_lt, String.toList_append,
    String.toList_append]
  induction start.toList with
  | nil => rfl
  | cons head rest ih =>
      rw [List.cons_append, List.cons_append, List.cons_lt_cons_iff]
      constructor
      · intro order
        rcases order with impossible | tail
        · exact absurd impossible (lt_irrefl head)
        · exact ih.mp tail.2
      · intro order
        exact Or.inr ⟨rfl, ih.mpr order⟩

/-! ### Signed numbers -/

/-- The decimal digits of a number, after a minus sign if it is negative. -/
def signed (value : Int) : String :=
  if value < 0 then "-" ++ decimal value.natAbs else decimal value.natAbs

/-- A signed integer: digits after at most one sign. -/
def parseSigned (text : String) : Option Int :=
  match text.toList with
  | '-' :: digits => (readDigits digits).map (fun value => -(value : Int))
  | '+' :: digits => (readDigits digits).map Int.ofNat
  | digits => (readDigits digits).map Int.ofNat

theorem decimal_isDigit {value : Nat} {char : Char}
    (member : char ∈ (decimal value).toList) : char.isDigit = true := by
  rw [decimal_eq_zeroPadded] at member
  exact List.all_eq_true.mp (zeroPadded_isAsciiDigits 0 value) char member

theorem signed_chars {value : Int} {char : Char}
    (member : char ∈ (signed value).toList) :
    char = '-' ∨ char.isDigit = true := by
  unfold signed at member
  split at member
  · rw [String.toList_append] at member
    rcases List.mem_append.mp member with sign | digit
    · exact Or.inl (List.mem_singleton.mp sign)
    · exact Or.inr (decimal_isDigit digit)
  · exact Or.inr (decimal_isDigit member)

theorem readDigits_decimal (value : Nat) :
    readDigits (decimal value).toList = some value := by
  rw [decimal_eq_zeroPadded]
  exact readDigits_zeroPadded 0 value

/-- Digits are read as they stand, for the first one is no sign. -/
theorem parseSigned_decimal (value : Nat) :
    parseSigned (decimal value) = some (value : Int) := by
  have read := readDigits_decimal value
  have digits : ∀ char ∈ (decimal value).toList, char.isDigit = true :=
    fun _ => decimal_isDigit
  unfold parseSigned
  split
  · rename_i minus
    rw [minus] at digits
    exact absurd (digits _ List.mem_cons_self) (by decide)
  · rename_i plus
    rw [plus] at digits
    exact absurd (digits _ List.mem_cons_self) (by decide)
  · rw [read]
    rfl

theorem parseSigned_signed (value : Int) :
    parseSigned (signed value) = some value := by
  unfold signed
  split
  · rename_i negative
    have read := readDigits_decimal value.natAbs
    unfold parseSigned
    rw [String.toList_append]
    simp only [String.reduceToList, List.cons_append,
      List.nil_append, read, Option.bind_eq_bind, Option.bind_some,
      Option.pure_def, Option.map_some, Option.some.injEq]
    omega
  · rename_i positive
    rw [parseSigned_decimal]
    congr 1
    omega

theorem decimal_injective {left right : Nat}
    (same : decimal left = decimal right) : left = right := by
  rw [decimal_eq_zeroPadded, decimal_eq_zeroPadded] at same
  exact zeroPadded_injective same

theorem decimal_ne_minus (left right : Nat) :
    decimal left ≠ "-" ++ decimal right := by
  intro same
  have minus : '-' ∈ (decimal left).toList := by
    rw [same, String.toList_append]
    exact List.mem_append_left _ (List.mem_singleton.mpr rfl)
  exact absurd (decimal_isDigit minus) (by decide)

theorem signed_injective {left right : Int}
    (same : signed left = signed right) : left = right := by
  unfold signed at same
  split at same
  · split at same
    · have texts := congrArg String.toList same
      rw [String.toList_append, String.toList_append,
        List.append_cancel_left_eq] at texts
      have numbers := decimal_injective (String.toList_inj.mp texts)
      omega
    · exact absurd same.symm (decimal_ne_minus _ _)
  · split at same
    · exact absurd same (decimal_ne_minus _ _)
    · have numbers := decimal_injective same
      omega

end Text

end Foundation
