/-
Phrases inside a text that is put together from parts.

A phrase that holds no separator lies in one of the parts that the separators
leave; one that cannot begin before a fixed ending and end inside it lies in
the part or in the ending.
-/

import Mathlib.Data.List.Infix

namespace Foundation.Phrases

variable {α : Type} {phrase : List α}

theorem infix_separated {separator : α} (absent : separator ∉ phrase)
    (left right : List α) :
    phrase <:+: left ++ separator :: right ↔
      phrase <:+: left ∨ phrase <:+: right := by
  constructor
  · intro occurs
    rcases List.infix_append_iff_ne_nil.mp occurs with inLeft | inRest | across
    · exact Or.inl inLeft
    · rcases List.infix_cons_iff.mp inRest with atStart | inRight
      · cases phrase with
        | nil => exact Or.inl (List.nil_infix)
        | cons first rest =>
            have same := (List.cons_prefix_cons.mp atStart).1
            exact absurd (same ▸ List.mem_cons_self) absent
      · exact Or.inr inRight
    · obtain ⟨start, ending, _, nonempty, whole, _, initial⟩ := across
      cases ending with
      | nil => exact absurd rfl nonempty
      | cons first rest =>
          have same := (List.cons_prefix_cons.mp initial).1
          apply absurd _ absent
          rw [whole, ← same]
          exact List.mem_append_right _ List.mem_cons_self
  · intro either
    rcases either with inLeft | inRight
    · exact inLeft.trans (List.prefix_append _ _).isInfix
    · exact inRight.trans
        ((List.suffix_cons _ _).trans (List.suffix_append _ _)).isInfix

/-- A phrase does not occur where one of its elements does not. -/
theorem not_infix_of_foreign {text : List α} {element : α}
    (occurs : element ∈ phrase) (foreign : element ∉ text) :
    ¬phrase <:+: text :=
  fun within => foreign (within.subset occurs)

end Foundation.Phrases
