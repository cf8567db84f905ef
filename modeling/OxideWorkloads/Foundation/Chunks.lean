/-
A list in consecutive chunks of one size, the last of which may be shorter.
-/

import Mathlib.Algebra.Order.Floor.Div
import Mathlib.Data.List.Basic

namespace Foundation

namespace Chunks

variable {α : Type}

/-- The full chunks after the start of one, and the rest. -/
def fill (size : Nat) : List α → List α → List (List α) × List α
  | current, [] => ([], current)
  | current, entry :: rest =>
      if current.length + 1 = size then
        ((current ++ [entry]) :: (fill size [] rest).1, (fill size [] rest).2)
      else fill size (current ++ [entry]) rest

/-- Full chunks, and one more of the rest unless it is empty. -/
def withRest (parts : List (List α) × List α) : List (List α) :=
  parts.1 ++ (if parts.2 = [] then [] else [parts.2])

/-- The chunks of a list. -/
def chunks (size : Nat) (entries : List α) : List (List α) :=
  withRest (fill size [] entries)

/-- Consecutive chunks of a list: none is empty or too long, and all but the
last are full. -/
structure Splits (size : Nat) (entries : List α) (parts : List (List α)) :
    Prop where
  whole : parts.flatten = entries
  nonempty : ∀ part ∈ parts, part ≠ []
  bounded : ∀ part ∈ parts, part.length ≤ size
  full : ∀ part ∈ parts.dropLast, part.length = size

/-- Full chunks and what is left of a list. -/
structure Fills (size : Nat) (entries : List α) (parts : List (List α))
    (left : List α) : Prop where
  whole : parts.flatten ++ left = entries
  full : ∀ part ∈ parts, part.length = size
  short : left.length < size

theorem fill_fills {size : Nat} (current entries : List α)
    (short : current.length < size) :
    Fills size (current ++ entries) (fill size current entries).1
      (fill size current entries).2 := by
  induction entries generalizing current with
  | nil =>
      constructor
      · exact (List.append_nil current).symm
      · intro part member
        cases member
      · exact short
  | cons entry rest ih =>
      have split : current ++ entry :: rest =
          (current ++ [entry]) ++ rest := by
        rw [List.append_assoc, List.singleton_append]
      have length : (current ++ [entry]).length = current.length + 1 := by
        rw [List.length_append, List.length_singleton]
      rw [fill, split]
      by_cases full : current.length + 1 = size
      · rw [if_pos full]
        have tail := ih [] (by
          rw [List.length_nil]
          omega)
        constructor
        · rw [List.flatten_cons, List.append_assoc, tail.whole,
            List.nil_append]
        · intro part member
          rcases List.mem_cons.mp member with same | later
          · rw [same]
            exact length.trans full
          · exact tail.full part later
        · exact tail.short
      · rw [if_neg full]
        apply ih
        omega

theorem Fills.nonempty {size : Nat} {entries left : List α}
    {parts : List (List α)} (fills : Fills size entries parts left) :
    ∀ part ∈ parts, part ≠ [] := by
  intro part member empty
  have full := fills.full part member
  have short := fills.short
  rw [empty, List.length_nil] at full
  omega

theorem Fills.splits {size : Nat} {entries left : List α}
    {parts : List (List α)} (fills : Fills size entries parts left) :
    Splits size entries (withRest (parts, left)) := by
  unfold withRest
  by_cases nothing : left = []
  · rw [if_pos nothing, List.append_nil]
    constructor
    · rw [← fills.whole, nothing, List.append_nil]
    · exact fills.nonempty
    · intro part member
      exact Nat.le_of_eq (fills.full part member)
    · intro part member
      exact fills.full part (List.dropLast_subset _ member)
  · rw [if_neg nothing]
    constructor
    · rw [List.flatten_append, List.flatten_singleton, fills.whole]
    · intro part member
      rcases List.mem_append.mp member with before | last
      · exact fills.nonempty part before
      · rw [List.mem_singleton.mp last]
        exact nothing
    · intro part member
      rcases List.mem_append.mp member with before | last
      · exact Nat.le_of_eq (fills.full part before)
      · rw [List.mem_singleton.mp last]
        exact Nat.le_of_lt fills.short
    · intro part member
      rw [List.dropLast_concat] at member
      exact fills.full part member

theorem chunks_splits {size : Nat} (positive : 0 < size) (entries : List α) :
    Splits size entries (chunks size entries) :=
  (fill_fills [] entries positive).splits

/-- The first chunk is filled up, and the next one starts behind it. -/
theorem fill_full {size : Nat} (current entries : List α)
    (short : current.length < size)
    (enough : size ≤ current.length + entries.length) :
    fill size current entries =
      ((current ++ entries.take (size - current.length)) ::
          (fill size [] (entries.drop (size - current.length))).1,
        (fill size [] (entries.drop (size - current.length))).2) := by
  induction entries generalizing current with
  | nil =>
      rw [List.length_nil] at enough
      omega
  | cons entry rest ih =>
      have length : (current ++ [entry]).length = current.length + 1 := by
        rw [List.length_append, List.length_singleton]
      rw [fill]
      by_cases full : current.length + 1 = size
      · have one : size - current.length = 1 := by omega
        rw [if_pos full, one]
        rfl
      · have more : size - current.length =
            size - (current.length + 1) + 1 := by omega
        rw [List.length_cons] at enough
        rw [if_neg full, ih _ (by omega) (by omega), length, more,
          List.take_succ_cons, List.drop_succ_cons, List.append_assoc,
          List.singleton_append]

theorem fill_short {size : Nat} (current entries : List α)
    (few : current.length + entries.length < size) :
    fill size current entries = ([], current ++ entries) := by
  induction entries generalizing current with
  | nil => rw [fill, List.append_nil]
  | cons entry rest ih =>
      have length : (current ++ [entry]).length = current.length + 1 := by
        rw [List.length_append, List.length_singleton]
      rw [List.length_cons] at few
      rw [fill, if_neg (by omega), ih _ (by omega), List.append_assoc,
        List.singleton_append]

theorem chunks_nil (size : Nat) : chunks size ([] : List α) = [] :=
  rfl

theorem chunks_step {size : Nat} (positive : 0 < size) {entries : List α}
    (nonempty : entries ≠ []) :
    chunks size entries =
      entries.take size :: chunks size (entries.drop size) := by
  unfold chunks
  by_cases enough : size ≤ entries.length
  · rw [fill_full [] entries positive (by
      rw [List.length_nil]
      omega)]
    rfl
  · have short := Nat.lt_of_not_le enough
    rw [fill_short [] entries (by
        rw [List.length_nil]
        omega), List.drop_eq_nil_of_le (Nat.le_of_lt short),
      List.take_of_length_le (Nat.le_of_lt short)]
    change (if entries = [] then [] else [entries]) = [entries]
    exact if_neg nonempty

/-! ### Whole chunks -/

theorem chunks_drop {size : Nat} (positive : 0 < size) (entries : List α)
    (count : Nat) :
    chunks size (entries.drop (count * size)) =
      (chunks size entries).drop count := by
  induction count generalizing entries with
  | zero => rw [Nat.zero_mul, List.drop_zero, List.drop_zero]
  | succ count ih =>
      rw [Nat.succ_mul, Nat.add_comm, ← List.drop_drop, ih]
      by_cases empty : entries = []
      · rw [empty, List.drop_nil, chunks_nil, List.drop_nil, List.drop_nil]
      · rw [chunks_step positive empty, List.drop_succ_cons]

theorem chunks_take {size : Nat} (positive : 0 < size) (entries : List α)
    (count : Nat) :
    chunks size (entries.take (count * size)) =
      (chunks size entries).take count := by
  induction count generalizing entries with
  | zero => rw [Nat.zero_mul, List.take_zero, List.take_zero, chunks_nil]
  | succ count ih =>
      by_cases empty : entries = []
      · rw [empty, List.take_nil, chunks_nil, List.take_nil]
      · have some_ : entries.take ((count + 1) * size) ≠ [] := by
          intro none_
          rcases List.take_eq_nil_iff.mp none_ with zero | nothing
          · rw [Nat.succ_mul] at zero
            omega
          · exact empty nothing
        have first : (entries.take ((count + 1) * size)).take size =
            entries.take size := by
          rw [List.take_take, Nat.succ_mul, min_eq_left (by omega)]
        have others : (entries.take ((count + 1) * size)).drop size =
            (entries.drop size).take (count * size) := by
          rw [List.drop_take, Nat.succ_mul, Nat.add_sub_cancel]
        rw [chunks_step positive some_, chunks_step positive empty, first,
          others, ih, List.take_succ_cons]

theorem ceilDiv_step {size count : Nat} (positive : 0 < size)
    (some_ : 0 < count) :
    count ⌈/⌉ size = (count - size) ⌈/⌉ size + 1 := by
  rw [Nat.ceilDiv_eq_add_pred_div, Nat.ceilDiv_eq_add_pred_div]
  rcases Nat.lt_or_ge count size with short | enough
  · rw [Nat.sub_eq_zero_of_le (Nat.le_of_lt short), Nat.zero_add,
      Nat.div_eq_of_lt (Nat.sub_lt positive Nat.one_pos),
      Nat.div_eq_of_lt_le] <;> omega
  · have split : count + size - 1 = count - size + size - 1 + size := by
      omega
    rw [split, Nat.add_div_right _ positive]

theorem chunks_length {size : Nat} (positive : 0 < size)
    (entries : List α) :
    (chunks size entries).length = entries.length ⌈/⌉ size := by
  induction length : entries.length using Nat.strongRecOn
    generalizing entries
  rename_i bound ih
  by_cases empty : entries = []
  · rw [empty, List.length_nil] at length
    rw [empty, ← length, chunks_nil, zero_ceilDiv, List.length_nil]
  · have some_ := List.length_pos_iff.mpr empty
    have shorter := ih (entries.drop size).length (by
      rw [List.length_drop]
      omega) (entries.drop size) rfl
    rw [chunks_step positive empty, List.length_cons, shorter,
      List.length_drop, ← length, ceilDiv_step positive some_]

end Chunks

end Foundation
