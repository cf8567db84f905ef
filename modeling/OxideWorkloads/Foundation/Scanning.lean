/-
The matches of a pattern in a text, from left to right and without overlaps,
and the text without them.

Nothing here mentions a particular pattern.
-/

import Mathlib.Data.List.Basic

namespace Foundation.Scanning

/-- What a pattern finds at the beginning of a text, and how many characters
after the first one it takes.  It is told the character before the text. -/
abbrev Pattern (α β : Type) : Type := Option α → List α → Option (β × Nat)

variable {α β : Type} (pattern : Pattern α β)

/-- What is found in a text, after a number of characters that are taken. -/
def findAll : Nat → Option α → List α → List β
  | _, _, [] => []
  | taken + 1, _, char :: rest => findAll taken (some char) rest
  | 0, before, char :: rest =>
      match pattern before (char :: rest) with
      | some (found, more) => found :: findAll more (some char) rest
      | none => findAll 0 (some char) rest

/-- A text without what is found in it. -/
def removeAll : Nat → Option α → List α → List α
  | _, _, [] => []
  | taken + 1, _, char :: rest => removeAll taken (some char) rest
  | 0, before, char :: rest =>
      match pattern before (char :: rest) with
      | some (_, more) => removeAll more (some char) rest
      | none => char :: removeAll 0 (some char) rest

variable {pattern} {before : Option α} {text : List α}

/-- The pattern matches nowhere in a text that has `before` in front. -/
def Absent (pattern : Pattern α β) (before : Option α) (text : List α) :
    Prop :=
  ∀ left right, text = left ++ right → right ≠ [] →
    pattern (left.getLast?.or before) right = none

theorem absent_nil : Absent pattern before [] := by
  intro left right split nonempty
  exact absurd (List.append_eq_nil_iff.mp split.symm).2 nonempty

theorem getLast?_or (char : α) (left : List α) :
    ((char :: left).getLast?).or before = left.getLast?.or (some char) := by
  cases ended : left.getLast? with
  | none =>
      rw [List.getLast?_eq_none_iff] at ended
      rw [ended]
      rfl
  | some last =>
      rw [List.getLast?_cons, ended]
      rfl

theorem absent_cons {char : α} {rest : List α} :
    Absent pattern before (char :: rest) ↔
      pattern before (char :: rest) = none ∧
        Absent pattern (some char) rest := by
  constructor
  · intro absent
    constructor
    · exact absent [] (char :: rest) rfl (List.cons_ne_nil _ _)
    · intro left right split nonempty
      have later := absent (char :: left) right
        (by rw [split, List.cons_append]) nonempty
      rw [getLast?_or] at later
      exact later
  · intro absent left right split nonempty
    cases left with
    | nil =>
        rw [List.nil_append] at split
        rw [← split]
        exact absent.1
    | cons head tail =>
        rw [List.cons_append, List.cons.injEq] at split
        rw [getLast?_or, ← split.1]
        exact absent.2 tail right split.2 nonempty

/-- Nothing is found exactly where the pattern matches nowhere. -/
theorem findAll_eq_nil :
    findAll pattern 0 before text = [] ↔ Absent pattern before text := by
  induction text generalizing before with
  | nil => exact iff_of_true rfl absent_nil
  | cons char rest ih =>
      rw [absent_cons, ← ih, findAll]
      cases pattern before (char :: rest) with
      | some found => simp
      | none => simp

/-- What is found was matched somewhere in the text. -/
theorem matched_of_mem_findAll {taken : Nat} {found : β}
    (member : found ∈ findAll pattern taken before text) :
    ∃ left right more, text = left ++ right ∧
      pattern (left.getLast?.or before) right = some (found, more) := by
  induction text generalizing taken before with
  | nil =>
      rw [findAll] at member
      exact absurd member List.not_mem_nil
  | cons char rest ih =>
      have later : ∀ {count}, found ∈ findAll pattern count (some char) rest →
          ∃ left right more, char :: rest = left ++ right ∧
            pattern (left.getLast?.or before) right = some (found, more) := by
        intro count inRest
        obtain ⟨left, right, more, split, isMatch⟩ := ih inRest
        refine ⟨char :: left, right, more, ?_, ?_⟩
        · rw [split, List.cons_append]
        · rw [getLast?_or]
          exact isMatch
      cases taken with
      | succ taken => exact later (by rw [findAll] at member; exact member)
      | zero =>
          rw [findAll] at member
          cases here : pattern before (char :: rest) with
          | none =>
              rw [here] at member
              exact later member
          | some isHere =>
              rw [here] at member
              rcases List.mem_cons.mp member with same | inRest
              · exact ⟨[], char :: rest, isHere.2, rfl, by
                  rw [same]
                  exact here⟩
              · exact later inRest

end Foundation.Scanning
