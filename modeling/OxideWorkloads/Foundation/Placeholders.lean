/-
Numbered placeholders in the text of a statement.

A statement that inserts rows has one group of placeholders for each row, and
one counter numbers the placeholders of all groups.  Read back from the text,
the numbers ascend by one through the whole statement.
-/

import OxideWorkloads.Foundation.DecimalOrder
import OxideWorkloads.Foundation.TextWrites

namespace Foundation

namespace Placeholders

open Text (decimal digitsValue)

/-- The numbers after the dollar signs of a text, in their order. -/
def numbers : List Char → List Nat
  | [] => []
  | char :: rest =>
      if char = '$' then
        digitsValue (rest.takeWhile Char.isDigit) :: numbers rest
      else numbers rest

/-- Placeholders with consecutive numbers, each before its text. -/
def numbered : Nat → List String → String
  | _, [] => ""
  | first, text :: rest =>
      "$" ++ decimal first ++ text ++ numbered (first + 1) rest

/-- The groups of the rows, numbered by one counter. -/
def groups (columns : Nat) (group : Nat → String) : Nat → Nat → List String
  | _, 0 => []
  | param, rows + 1 =>
      group param :: groups columns group (param + columns) rows

/-- The text neither holds a dollar sign nor goes on with a number. -/
def Plain (text : List Char) : Prop :=
  '$' ∉ text ∧ text ≠ [] ∧ text.takeWhile Char.isDigit = []

instance (text : List Char) : Decidable (Plain text) :=
  inferInstanceAs (Decidable (_ ∧ _))

theorem numbers_append {left right : List Char}
    (ended : right.takeWhile Char.isDigit = []) :
    numbers (left ++ right) = numbers left ++ numbers right := by
  induction left with
  | nil => rfl
  | cons char rest ih =>
      have run : (rest ++ right).takeWhile Char.isDigit =
          rest.takeWhile Char.isDigit := by
        rw [List.takeWhile_append]
        split
        · rename_i whole
          rw [ended, List.append_nil]
          exact ((List.takeWhile_prefix _).eq_of_length whole).symm
        · rfl
      rw [List.cons_append, numbers, numbers, run, ih]
      split
      · rfl
      · rfl

theorem numbers_free_append {left : List Char} (free : '$' ∉ left)
    (right : List Char) : numbers (left ++ right) = numbers right := by
  induction left with
  | nil => rfl
  | cons char rest ih =>
      rw [List.mem_cons, not_or] at free
      rw [List.cons_append, numbers, if_neg (fun same => free.1 same.symm),
        ih free.2]

theorem numbers_free {text : List Char} (free : '$' ∉ text) :
    numbers text = [] := by
  have whole := numbers_free_append free []
  rw [List.append_nil] at whole
  exact whole

theorem numbers_decimal (number : Nat) :
    numbers ('$' :: (decimal number).toList) = [number] := by
  have digits : ∀ char ∈ (decimal number).toList, char.isDigit = true :=
    fun _ member => Text.decimal_isDigit member
  have free : '$' ∉ (decimal number).toList := by
    intro member
    exact absurd (Text.decimal_isDigit member) (by decide)
  rw [numbers, if_pos rfl, List.takeWhile_eq_self_iff.mpr digits,
    numbers_free free, Text.decimal_eq_zeroPadded,
    Text.digitsValue_zeroPadded]

theorem numbers_numbered {texts : List String}
    (plain : ∀ text ∈ texts, Plain text.toList) (first : Nat) :
    numbers (numbered first texts).toList =
      List.range' first texts.length := by
  induction texts generalizing first with
  | nil => rfl
  | cons text rest ih =>
      obtain ⟨here, later⟩ := List.forall_mem_cons.mp plain
      -- What follows a text is empty or starts with the next dollar sign.
      have next : (numbered (first + 1) rest).toList.takeWhile
          Char.isDigit = [] := by
        cases rest with
        | nil => rfl
        | cons second others =>
            rw [numbered, String.toList_append, String.toList_append,
              String.toList_append]
            rfl
      have tail : (text.toList ++
          (numbered (first + 1) rest).toList).takeWhile Char.isDigit = [] := by
        obtain ⟨_, nonempty, ended⟩ := here
        obtain ⟨head, others, parts⟩ := List.exists_cons_of_ne_nil nonempty
        rw [parts] at ended ⊢
        rw [List.takeWhile_cons] at ended
        split at ended
        · cases ended
        · rename_i notDigit
          rw [List.cons_append, List.takeWhile_cons, if_neg notDigit]
      have start : (numbered first (text :: rest)).toList =
          ('$' :: (decimal first).toList) ++
            (text.toList ++ (numbered (first + 1) rest).toList) := by
        rw [numbered, String.toList_append, String.toList_append,
          String.toList_append, List.append_assoc, List.append_assoc]
        rfl
      rw [start, numbers_append tail, numbers_decimal, numbers_append next,
        numbers_free here.1, ih later, List.length_cons, List.range'_succ]
      rfl

/-- Each row binds a value to each column. -/
theorem values_length {α β : Type} {columns : Nat} {values : α → List β}
    (each : ∀ row, (values row).length = columns) (rows : List α) :
    (rows.flatMap values).length = columns * rows.length := by
  induction rows with
  | nil => rfl
  | cons row rest ih =>
      rw [List.flatMap_cons, List.length_append, ih, each, List.length_cons,
        Nat.mul_succ, Nat.add_comm]

/-- The counter of the groups, row by row. -/
theorem groups_eq (columns : Nat) (group : Nat → String) (param rows : Nat) :
    groups columns group param rows =
      (List.range rows).map fun row => group (param + columns * row) := by
  induction rows generalizing param with
  | zero => rfl
  | succ rows ih =>
      rw [groups, ih, List.range_succ_eq_map, List.map_cons, List.map_map,
        Nat.mul_zero, Nat.add_zero]
      congr 1
      apply List.map_congr_left
      intro row _
      rw [Function.comp_apply, Nat.mul_succ]
      congr 1
      omega

/-- The joined groups of at least one row start as the first group does. -/
theorem joined_opens {columns : Nat} {group : Nat → String}
    (opens : ∀ first, ∃ rest, (group first).toList = '(' :: rest)
    (param rows : Nat) :
    (", ".intercalate (groups columns group param (rows + 1))).toList.takeWhile
      Char.isDigit = [] := by
  obtain ⟨rest, start⟩ := opens param
  cases rows with
  | zero =>
      rw [groups, groups, String.intercalate_singleton, start]
      rfl
  | succ rows =>
      rw [groups, groups, String.intercalate_cons_cons, String.toList_append,
        String.toList_append, start]
      rfl

/-- The groups joined by commas have consecutive numbers. -/
theorem numbers_groups {columns : Nat} {group : Nat → String}
    (each : ∀ first, numbers (group first).toList =
      List.range' first columns)
    (opens : ∀ first, ∃ rest, (group first).toList = '(' :: rest)
    (param rows : Nat) :
    numbers (", ".intercalate (groups columns group param rows)).toList =
      List.range' param (columns * rows) := by
  induction rows generalizing param with
  | zero => rfl
  | succ rows ih =>
      have split : List.range' param (columns * (rows + 1)) =
          List.range' param columns ++
            List.range' (param + columns) (columns * rows) := by
        rw [List.range'_append_1, Nat.mul_succ, Nat.add_comm columns]
      rw [split, ← ih (param + columns), groups]
      cases rows with
      | zero =>
          rw [groups, String.intercalate_singleton, each]
          exact (List.append_nil _).symm
      | succ rows =>
          have first : groups columns group (param + columns) (rows + 1) =
              group (param + columns) ::
                groups columns group (param + columns + columns) rows := rfl
          have closed : (", ".toList ++ (", ".intercalate
              (groups columns group (param + columns)
                (rows + 1))).toList).takeWhile Char.isDigit = [] := rfl
          rw [first, String.intercalate_cons_cons, ← first,
            String.toList_append, String.toList_append, List.append_assoc,
            numbers_append closed, numbers_append (joined_opens opens _ _),
            each]
          rfl

/-- Rows with one placeholder before each of the texts. -/
theorem numbers_rows {texts : List String}
    (plain : ∀ text ∈ texts, Plain text.toList) (param rows : Nat) :
    numbers (", ".intercalate (groups texts.length
      (fun first => "(" ++ numbered first texts) param rows)).toList =
      List.range' param (texts.length * rows) := by
  apply numbers_groups
  · intro first
    rw [String.toList_append, ← numbers_numbered plain first]
    exact numbers_free_append (by decide) _
  · intro first
    exact ⟨(numbered first texts).toList, String.toList_append⟩

end Placeholders

end Foundation
