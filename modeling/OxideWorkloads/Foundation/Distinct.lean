/-
Lists without their repetitions, each element at its first place.
-/

import Mathlib.Data.List.Induction
import Mathlib.Data.List.Nodup

namespace Foundation.Distinct

variable {α : Type}

/-- Two elements that differ make a list without repetitions long. -/
theorem two_le_length_iff {items : List α} (distinct : items.Nodup) :
    2 ≤ items.length ↔
      ∃ one ∈ items, ∃ other ∈ items, one ≠ other := by
  constructor
  · intro long
    rcases items with _ | ⟨one, _ | ⟨other, rest⟩⟩
    · cases long
    · contradiction
    · refine ⟨one, List.mem_cons_self, other,
        List.mem_cons_of_mem _ List.mem_cons_self, ?_⟩
      intro same
      rw [same] at distinct
      exact (List.nodup_cons.mp distinct).1 List.mem_cons_self
  · rintro ⟨one, oneIn, other, otherIn, different⟩
    rcases items with _ | ⟨first, _ | ⟨second, rest⟩⟩
    · cases oneIn
    · rw [List.mem_singleton] at oneIn otherIn
      exact absurd (oneIn.trans otherIn.symm) different
    · exact Nat.le_add_left 2 rest.length

variable [DecidableEq α]

/-- An element at the end is kept if it is new. -/
theorem eraseDups_concat (items : List α) (item : α) :
    (items ++ [item]).eraseDups =
      if item ∈ items then items.eraseDups else items.eraseDups ++ [item] := by
  rw [List.eraseDups_append]
  by_cases old : item ∈ items
  · rw [if_pos old, List.removeAll, List.filter_cons_of_neg (by simp [old])]
    exact List.append_nil _
  · rw [if_neg old, List.removeAll, List.filter_cons_of_pos (by simp [old])]
    rfl

theorem nodup_eraseDups (items : List α) : items.eraseDups.Nodup := by
  induction items using List.reverseRecOn with
  | nil => exact List.nodup_nil
  | append_singleton items item ih =>
      rw [eraseDups_concat]
      split
      · exact ih
      · rename_i new
        apply List.Nodup.append ih (List.nodup_singleton item)
        intro other member here
        rw [List.mem_singleton.mp here, List.mem_eraseDups] at member
        exact new member

theorem eraseDups_of_nodup {items : List α} (distinct : items.Nodup) :
    items.eraseDups = items := by
  induction items using List.reverseRecOn with
  | nil => rfl
  | append_singleton items item ih =>
      have parts := List.nodup_append.mp distinct
      have new : item ∉ items := by
        intro member
        exact parts.2.2 item member item List.mem_cons_self rfl
      rw [eraseDups_concat, if_neg new, ih parts.1]

end Foundation.Distinct
