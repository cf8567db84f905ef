/-
Texts that are read while they are written.

A text is written piece by piece, and a piece may have landed in part when
somebody reads; so what is read is a prefix of the text.  A prefix of the
digits of a number reads as the number only if it has all of them.
-/

import Mathlib.Data.List.TakeWhile
import OxideWorkloads.Foundation.DecimalOrder

namespace Foundation

namespace Text

/-- What can be in a file while pieces are written to it one after another. -/
inductive Visible : List String → String → Prop where
  | untouched : Visible [] ""
  | partly {piece seen : String} {rest : List String}
      (landed : seen.toList <+: piece.toList) : Visible (piece :: rest) seen
  | onward {piece seen : String} {rest : List String}
      (later : Visible rest seen) : Visible (piece :: rest) (piece ++ seen)

/-- A prefix of two texts is one of the first, or goes on in the second. -/
theorem prefix_append_cases {α : Type} {seen first second : List α} :
    seen <+: first ++ second ↔
      seen <+: first ∨ ∃ more, seen = first ++ more ∧ more <+: second := by
  constructor
  · intro initial
    rcases List.prefix_or_prefix_of_prefix initial
      (List.prefix_append first second) with short | long
    · exact Or.inl short
    · obtain ⟨more, same⟩ := long
      rw [← same, List.prefix_append_right_inj] at initial
      exact Or.inr ⟨more, same.symm, initial⟩
  · intro either
    rcases either with short | ⟨more, same, initial⟩
    · exact short.trans (List.prefix_append first second)
    · rw [same, List.prefix_append_right_inj]
      exact initial

theorem visible_iff {pieces : List String} {seen : String} :
    Visible pieces seen ↔ seen.toList <+: pieces.flatMap String.toList := by
  constructor
  · intro visible
    induction visible with
    | untouched => exact List.nil_prefix
    | partly landed => exact landed.trans (List.prefix_append _ _)
    | onward later ih =>
        rw [List.flatMap_cons, String.toList_append,
          List.prefix_append_right_inj]
        exact ih
  · intro initial
    induction pieces generalizing seen with
    | nil =>
        have empty := String.toList_eq_nil_iff.mp (List.prefix_nil.mp initial)
        rw [empty]
        exact .untouched
    | cons piece rest ih =>
        rw [List.flatMap_cons] at initial
        rcases prefix_append_cases.mp initial with landed | onward
        · exact .partly landed
        · obtain ⟨more, same, later⟩ := onward
          have split : seen = piece ++ String.ofList more := by
            apply String.toList_injective
            rw [same, String.toList_append, String.toList_ofList]
          rw [split]
          apply Visible.onward
          apply ih
          rw [String.toList_ofList]
          exact later

/-! ### Prefixes of a number -/

theorem digitsValue_append (first second : List Char) :
    digitsValue (first ++ second) =
      Nat.pow 10 second.length * digitsValue first + digitsValue second := by
  unfold digitsValue
  rw [Nat.ofDigitChars_append, Nat.ofDigitChars_eq_ofDigitChars_zero]
  rfl

/-- Fewer digits are another number. -/
theorem digitsValue_initial {value : Nat} {part : List Char}
    (initial : part <+: Nat.toDigits 10 value) (nonempty : part ≠ []) :
    digitsValue part = value ↔ part = Nat.toDigits 10 value := by
  have whole : digitsValue (Nat.toDigits 10 value) = value :=
    Nat.ofDigitChars_ten_toDigits
  constructor
  · intro same
    obtain ⟨rest, split⟩ := initial
    have total := digitsValue_append part rest
    rw [split, whole, same] at total
    cases rest with
    | nil => rw [← split, List.append_nil]
    | cons digit digits =>
        exfalso
        have grows : Nat.pow 10 (digit :: digits).length =
            Nat.pow 10 digits.length * 10 := rfl
        have positive : 0 < Nat.pow 10 digits.length :=
          Nat.pow_pos (by omega)
        have large : value * 10 ≤ Nat.pow 10 (digit :: digits).length * value := by
          rw [grows, Nat.mul_assoc, Nat.mul_comm value]
          exact Nat.le_mul_of_pos_left _ positive
        have zero : value = 0 := by omega
        have one : (Nat.toDigits 10 value).length = 1 := by
          rw [zero]
          rfl
        have some_ := List.length_pos_iff.mpr nonempty
        rw [← split, List.length_append, List.length_cons] at one
        omega
  · intro same
    rw [same, whole]

theorem isDigit_of_initial {value : Nat} {part : List Char}
    (initial : part <+: Nat.toDigits 10 value) :
    ∀ char ∈ part, char.isDigit = true := by
  intro char member
  exact Nat.isDigit_of_mem_toDigits (by omega) (by omega)
    (initial.subset member)

theorem decimal_toList (value : Nat) :
    (decimal value).toList = Nat.toDigits 10 value :=
  String.toList_ofList

theorem notMem_of_initial {value : Nat} {part : List Char}
    (initial : part <+: Nat.toDigits 10 value) {char : Char}
    (notDigit : char.isDigit = false) : char ∉ part := by
  intro member
  rw [isDigit_of_initial initial char member] at notDigit
  cases notDigit

theorem splitOnce_absent {text : String} {separator : Char}
    (absent : separator ∉ text.toList) : splitOnce text separator = none := by
  have all : text.toList.dropWhile (fun char => char ≠ separator) = [] := by
    rw [List.dropWhile_eq_nil_iff]
    intro char member
    rw [decide_eq_true_iff]
    intro same
    rw [same] at member
    exact absent member
  unfold splitOnce
  rw [all]

end Text

end Foundation
