/-
Texts that are joined with a separator or closed by a terminator.

The encodings do not escape the separator.  They are injective as long as one
side is free of it, and for closed lines the number of lines stands in for
the freedom of the other side.
-/

import Mathlib.Data.List.Basic

namespace Foundation

namespace Separated

variable {α : Type}

/-- Two lists that are free of the separator end where it first stands. -/
theorem append_injective {separator : α} {left right leftRest rightRest :
      List α} (leftFree : separator ∉ left) (rightFree : separator ∉ right)
    (same : left ++ separator :: leftRest =
      right ++ separator :: rightRest) :
    left = right ∧ leftRest = rightRest := by
  induction left generalizing right with
  | nil =>
      cases right with
      | nil => exact ⟨rfl, (List.cons.inj same).2⟩
      | cons head tail =>
          have heads := (List.cons.inj same).1
          exact absurd (heads ▸ List.mem_cons_self) rightFree
  | cons head tail ih =>
      cases right with
      | nil =>
          have heads := (List.cons.inj same).1
          exact absurd (heads ▸ List.mem_cons_self) leftFree
      | cons other rest =>
          have parts := List.cons.inj same
          have tails := ih
            (fun member => leftFree (List.mem_cons_of_mem _ member))
            (fun member => rightFree (List.mem_cons_of_mem _ member)) parts.2
          rw [parts.1, tails.1]
          exact ⟨rfl, tails.2⟩

/-- Records that say where they end can be read back one after another. -/
theorem flatMap_injective {β : Type} {encode : β → List α}
    {readable : β → Prop} (nonempty : ∀ item, encode item ≠ [])
    (apart : ∀ left right leftRest rightRest, readable left →
      readable right →
      encode left ++ leftRest = encode right ++ rightRest →
        left = right ∧ leftRest = rightRest)
    {left right : List β} (leftReadable : ∀ item ∈ left, readable item)
    (rightReadable : ∀ item ∈ right, readable item)
    (same : left.flatMap encode = right.flatMap encode) : left = right := by
  induction left generalizing right with
  | nil =>
      cases right with
      | nil => rfl
      | cons item rest =>
          rw [List.flatMap_nil, List.flatMap_cons] at same
          exact absurd (List.append_eq_nil_iff.mp same.symm).1 (nonempty item)
  | cons item rest ih =>
      cases right with
      | nil =>
          rw [List.flatMap_nil, List.flatMap_cons] at same
          exact absurd (List.append_eq_nil_iff.mp same).1 (nonempty item)
      | cons other others =>
          rw [List.forall_mem_cons] at leftReadable rightReadable
          rw [List.flatMap_cons, List.flatMap_cons] at same
          have parts := apart _ _ _ _ leftReadable.1 rightReadable.1 same
          rw [parts.1, ih leftReadable.2 rightReadable.2 parts.2]

/-! ### Components -/

section Components

theorem intercalate_append {separator : α} {first rest : List (List α)}
    (firstNonempty : first ≠ []) (restNonempty : rest ≠ []) :
    [separator].intercalate (first ++ rest) =
      [separator].intercalate first ++
        separator :: [separator].intercalate rest := by
  induction first with
  | nil => exact absurd rfl firstNonempty
  | cons item first ih =>
      cases first with
      | nil =>
          rw [List.singleton_append,
            List.intercalate_cons_of_ne_nil restNonempty,
            List.intercalate_singleton, List.append_assoc,
            List.singleton_append]
      | cons next first =>
          rw [List.cons_append, List.intercalate_cons_of_ne_nil
              (List.append_ne_nil_of_left_ne_nil (List.cons_ne_nil _ _) _),
            List.intercalate_cons_of_ne_nil (List.cons_ne_nil _ _),
            ih (List.cons_ne_nil _ _), List.append_assoc, List.append_assoc,
            List.append_assoc]

variable [BEq α] [LawfulBEq α] {separator : α}

theorem not_mem_of_mem_splitOn {text part : List α}
    (member : part ∈ text.splitOn separator) : separator ∉ part := by
  induction text generalizing part with
  | nil =>
      rw [List.splitOn_nil, List.mem_singleton] at member
      rw [member]
      exact List.not_mem_nil
  | cons element text ih =>
      rw [List.splitOn_cons_eq_if_modifyHead] at member
      split at member
      · rcases List.mem_cons.mp member with first | later
        · rw [first]
          exact List.not_mem_nil
        · exact ih later
      · rename_i other
        obtain ⟨first, rest, whole⟩ :=
          List.exists_cons_of_ne_nil (List.splitOn_ne_nil separator text)
        rw [whole, List.modifyHead_cons] at member
        rcases List.mem_cons.mp member with here | later
        · rw [here, List.mem_cons, not_or]
          constructor
          · intro same
            exact other (beq_iff_eq.mpr same.symm)
          · exact ih (by rw [whole]; exact List.mem_cons_self)
        · exact ih (by rw [whole]; exact List.mem_cons_of_mem _ later)

/-- The components of one text start those of another exactly where the other
text is the same or goes on behind a separator. -/
theorem splitOn_initial_iff {part text : List α} :
    part.splitOn separator <+: text.splitOn separator ↔
      part = text ∨ part ++ [separator] <+: text := by
  constructor
  · rintro ⟨rest, whole⟩
    have joined := congrArg [separator].intercalate whole
    cases rest with
    | nil =>
        rw [List.append_nil, List.intercalate_splitOn,
          List.intercalate_splitOn] at joined
        exact Or.inl joined
    | cons next rest =>
        rw [intercalate_append (List.splitOn_ne_nil _ _)
          (List.cons_ne_nil _ _), List.intercalate_splitOn,
          List.intercalate_splitOn] at joined
        refine Or.inr ⟨[separator].intercalate (next :: rest), ?_⟩
        rw [List.append_assoc, List.singleton_append]
        exact joined
  · rintro (same | ⟨rest, whole⟩)
    · subst same
      exact List.prefix_refl _
    · rw [← whole, List.append_assoc, List.singleton_append,
        List.splitOn_append_cons_self]
      exact List.prefix_append _ _

end Components

/-! ### Lines -/

/-- Every line with its terminator. -/
def close (terminator : α) (lines : List (List α)) : List α :=
  lines.flatMap (fun line => line ++ [terminator])

theorem close_cons (terminator : α) (line : List α)
    (lines : List (List α)) :
    close terminator (line :: lines) =
      line ++ terminator :: close terminator lines := by
  unfold close
  rw [List.flatMap_cons, List.append_assoc, List.singleton_append]

theorem close_injective_of_free {terminator : α}
    {lines others : List (List α)}
    (free : ∀ line ∈ lines, terminator ∉ line)
    (otherFree : ∀ line ∈ others, terminator ∉ line)
    (same : close terminator lines = close terminator others) :
    lines = others := by
  induction lines generalizing others with
  | nil =>
      cases others with
      | nil => rfl
      | cons line rest =>
          rw [close_cons] at same
          exact absurd same.symm (List.append_ne_nil_of_right_ne_nil _
            (List.cons_ne_nil _ _))
  | cons line rest ih =>
      cases others with
      | nil =>
          rw [close_cons] at same
          exact absurd same (List.append_ne_nil_of_right_ne_nil _
            (List.cons_ne_nil _ _))
      | cons other tail =>
          have parts := List.forall_mem_cons.mp free
          have otherParts := List.forall_mem_cons.mp otherFree
          rw [close_cons, close_cons] at same
          have heads := append_injective parts.1 otherParts.1 same
          rw [heads.1, ih parts.2 otherParts.2 heads.2]

variable [DecidableEq α]

/-- Besides one for each line, there are the terminators inside lines. -/
theorem count_close (terminator : α) (lines : List (List α)) :
    (close terminator lines).count terminator =
      lines.length + lines.flatten.count terminator := by
  induction lines with
  | nil => rfl
  | cons line rest ih =>
      rw [close_cons, List.count_append, List.count_cons_self, ih,
        List.length_cons, List.flatten_cons, List.count_append]
      omega

theorem free_iff {terminator : α} {lines : List (List α)} :
    (∀ line ∈ lines, terminator ∉ line) ↔
      lines.flatten.count terminator = 0 := by
  rw [List.count_eq_zero, List.mem_flatten]
  constructor
  · intro free found
    obtain ⟨line, listed, member⟩ := found
    exact free line listed member
  · intro none line listed member
    exact none ⟨line, listed, member⟩

/-- Lines that are free of the terminator are told from any others, free or
not, of the same number. -/
theorem close_injective {terminator : α} {lines others : List (List α)}
    (free : ∀ line ∈ lines, terminator ∉ line)
    (sameLength : lines.length = others.length)
    (same : close terminator lines = close terminator others) :
    lines = others := by
  have total := count_close terminator others
  rw [← same, count_close, ← sameLength, free_iff.mp free] at total
  apply close_injective_of_free free ?_ same
  apply free_iff.mpr
  omega

end Separated

end Foundation
