/-
Texts inside joined texts: a phrase that is inside parts joined by literals is
inside one of the parts, if it cannot reach into the literals.

Nothing here mentions a particular phrase.
-/

import Mathlib.Data.List.Infix

namespace Foundation.Embedded

variable {α : Type} [DecidableEq α]

/-- The phrase does not begin in the literal. -/
def passes (phrase literal : List α) : Bool :=
  phrase.head?.any (fun first => !decide (first ∈ literal))

/-- The phrase neither begins in the literal nor ends in it. -/
def parts (phrase literal : List α) : Bool :=
  literal.head?.any (fun first => !decide (first ∈ phrase)) &&
    passes phrase literal

variable {phrase literal left right : List α}

theorem first_of_passes (passed : passes phrase literal = true) :
    ∃ first rest, phrase = first :: rest ∧ first ∉ literal := by
  unfold passes at passed
  rw [Option.any_eq_true] at passed
  obtain ⟨first, begins, absent⟩ := passed
  rw [Bool.not_eq_true', decide_eq_false_iff_not] at absent
  cases phrase with
  | nil => cases begins
  | cons head tail =>
      rw [List.head?_cons] at begins
      rw [← Option.some.inj begins] at absent
      exact ⟨head, tail, rfl, absent⟩

theorem passes_append {more : List α} (passed : passes phrase literal = true)
    (again : passes phrase more = true) :
    passes phrase (literal ++ more) = true := by
  unfold passes at passed again ⊢
  rw [Option.any_eq_true] at passed again ⊢
  obtain ⟨first, begins, absent⟩ := passed
  obtain ⟨other, same, absentToo⟩ := again
  rw [begins] at same
  rw [← Option.some.inj same] at absentToo
  refine ⟨first, begins, ?_⟩
  rw [Bool.not_eq_true', decide_eq_false_iff_not] at absent absentToo ⊢
  rw [List.mem_append]
  exact not_or.mpr ⟨absent, absentToo⟩

theorem parts_append {more : List α} (parted : parts phrase literal = true)
    (passed : passes phrase more = true) :
    parts phrase (literal ++ more) = true := by
  unfold parts at parted ⊢
  rw [Bool.and_eq_true] at parted ⊢
  refine ⟨?_, passes_append parted.2 passed⟩
  cases literal with
  | nil => cases parted.1
  | cons first rest => exact parted.1

theorem not_infix_of_passes (passed : passes phrase literal = true) :
    ¬phrase <:+: literal := by
  intro inside
  obtain ⟨first, rest, isPhrase, absent⟩ := first_of_passes passed
  rw [isPhrase] at inside
  exact absent (inside.subset List.mem_cons_self)

theorem of_passes (passed : passes phrase literal = true)
    (inside : phrase <:+: literal ++ right) : phrase <:+: right := by
  obtain ⟨first, rest, isPhrase, absent⟩ := first_of_passes passed
  rcases List.infix_append_iff.mp inside with inLiteral | inRight | across
  · exact absurd inLiteral (not_infix_of_passes passed)
  · exact inRight
  · obtain ⟨start, others, split, isSuffix, isPrefix⟩ := across
    cases start with
    | nil =>
        rw [split, List.nil_append]
        exact isPrefix.isInfix
    | cons head tail =>
        rw [isPhrase, List.cons_append, List.cons.injEq] at split
        rw [← split.1] at isSuffix
        exact absurd (isSuffix.subset List.mem_cons_self) absent

theorem of_parts (parted : parts phrase literal = true)
    (inside : phrase <:+: left ++ (literal ++ right)) :
    phrase <:+: left ∨ phrase <:+: right := by
  unfold parts at parted
  rw [Bool.and_eq_true, Option.any_eq_true] at parted
  obtain ⟨⟨first, begins, free⟩, passed⟩ := parted
  rw [Bool.not_eq_true', decide_eq_false_iff_not] at free
  rcases List.infix_append_iff.mp inside with inLeft | inRest | across
  · exact Or.inl inLeft
  · exact Or.inr (of_passes passed inRest)
  · obtain ⟨start, rest, split, isSuffix, isPrefix⟩ := across
    cases rest with
    | nil =>
        rw [split, List.append_nil]
        exact Or.inl isSuffix.isInfix
    | cons head tail =>
        cases literal with
        | nil => cases begins
        | cons char more =>
            rw [List.head?_cons] at begins
            obtain ⟨same, _⟩ := List.cons_prefix_cons.mp isPrefix
            rw [← Option.some.inj begins, split, ← same] at free
            exact absurd (List.mem_append_right _ List.mem_cons_self) free

theorem of_parts_last (nonempty : phrase ≠ [])
    (parted : parts phrase literal = true)
    (inside : phrase <:+: left ++ literal) : phrase <:+: left := by
  rw [← List.append_nil literal] at inside
  rcases of_parts parted inside with inLeft | inNone
  · exact inLeft
  · exact absurd (List.infix_nil.mp inNone) nonempty

/-! ### Joined texts -/

/-- Texts with a separator between them. -/
def join (separator : String) : List String → String
  | [] => ""
  | [last] => last
  | first :: rest => first ++ (separator ++ join separator rest)

theorem of_join {separator : String} {phrase : List Char}
    (nonempty : phrase ≠ []) (parted : parts phrase separator.toList = true)
    {texts : List String}
    (inside : phrase <:+: (join separator texts).toList) :
    ∃ text ∈ texts, phrase <:+: text.toList := by
  induction texts with
  | nil => exact absurd (List.infix_nil.mp inside) nonempty
  | cons first rest ih =>
      cases rest with
      | nil => exact ⟨first, List.mem_cons_self, inside⟩
      | cons second others =>
          rw [join, String.toList_append, String.toList_append] at inside
          rcases of_parts parted inside with inFirst | inRest
          · exact ⟨first, List.mem_cons_self, inFirst⟩
          · obtain ⟨text, member, found⟩ := ih inRest
            exact ⟨text, List.mem_cons_of_mem _ member, found⟩
          · exact List.cons_ne_nil _ _

end Foundation.Embedded
