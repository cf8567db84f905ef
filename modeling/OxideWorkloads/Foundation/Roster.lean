/-
Tables of concurrent participants, of which one changes at a time.

How many participants meet a condition changes by what the old and the new
entry contribute; conditions that exclude each other add up.
-/

import Mathlib.Data.List.Basic

namespace Foundation

namespace Roster

variable {α : Type} {entries : List α} {position : Nat} {old new : α}

/-- The count after a change of one entry, without subtraction. -/
theorem countP_set (counted : α → Bool)
    (found : entries[position]? = some old) :
    (entries.set position new).countP counted + (counted old).toNat =
      entries.countP counted + (counted new).toNat := by
  induction entries generalizing position with
  | nil => cases found
  | cons head rest ih =>
      cases position with
      | zero =>
          cases found
          rw [List.set_cons_zero, List.countP_cons, List.countP_cons]
          cases counted new <;> cases counted old <;> simp
      | succ before =>
          have tail := ih found
          rw [List.set_cons_succ, List.countP_cons, List.countP_cons]
          omega

/-- A condition that the old and the new entry meet alike has the same
count. -/
theorem countP_set_of_eq (counted : α → Bool)
    (found : entries[position]? = some old)
    (same : counted new = counted old) :
    (entries.set position new).countP counted = entries.countP counted := by
  have balance :=
    @countP_set α entries position old new counted found
  rw [same] at balance
  omega

theorem forall_set {holds : α → Prop} (all : ∀ entry ∈ entries, holds entry)
    (changed : holds new) :
    ∀ entry ∈ entries.set position new, holds entry := by
  intro entry member
  rcases List.mem_or_eq_of_mem_set member with before | same
  · exact all entry before
  · rw [same]
    exact changed

/-- Two conditions that exclude each other, inside a third. -/
theorem countP_add_le {first second whole : α → Bool}
    (inFirst : ∀ entry ∈ entries, first entry = true → whole entry = true)
    (inSecond : ∀ entry ∈ entries, second entry = true → whole entry = true)
    (exclusive : ∀ entry ∈ entries, first entry = true →
      second entry = false) :
    entries.countP first + entries.countP second ≤ entries.countP whole := by
  induction entries with
  | nil => exact Nat.le_refl 0
  | cons head rest ih =>
      have firstParts := List.forall_mem_cons.mp inFirst
      have secondParts := List.forall_mem_cons.mp inSecond
      have apart := List.forall_mem_cons.mp exclusive
      have tail := ih firstParts.2 secondParts.2 apart.2
      rw [List.countP_cons, List.countP_cons, List.countP_cons]
      cases one : first head with
      | true =>
          rw [apart.1 one, firstParts.1 one]
          simp only [Bool.false_eq_true, if_false, if_true]
          omega
      | false =>
          cases two : second head with
          | true =>
              rw [secondParts.1 two]
              simp only [Bool.false_eq_true, if_false, if_true]
              omega
          | false =>
              simp only [Bool.false_eq_true, if_false]
              omega

end Roster

end Foundation
