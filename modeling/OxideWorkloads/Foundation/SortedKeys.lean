/-
Lists sorted by a key.

A list whose keys increase is determined by its elements, so a sorted list of
different keys does not depend on the order that it was sorted from.
-/

import Mathlib.Data.List.Nodup
import Mathlib.Data.List.Sort
import Mathlib.Order.Defs.LinearOrder

namespace Foundation.SortedKeys

variable {α κ : Type} [LinearOrder κ] (key : α → κ)

def sortBy (items : List α) : List α :=
  items.insertionSort (fun left right => key left ≤ key right)

/-- The keys increase. -/
def Increasing (items : List α) : Prop :=
  items.Pairwise (fun left right => key left < key right)

variable {key}

theorem mem_sortBy {items : List α} {item : α} :
    item ∈ sortBy key items ↔ item ∈ items :=
  List.mem_insertionSort _

theorem sortBy_perm (items : List α) : (sortBy key items).Perm items :=
  List.perm_insertionSort _ items

theorem sortBy_pairwise (items : List α) :
    (sortBy key items).Pairwise (fun left right => key left ≤ key right) := by
  have total : Std.Total (fun left right : α => key left ≤ key right) :=
    ⟨fun left right => le_total (key left) (key right)⟩
  have trans : IsTrans α (fun left right => key left ≤ key right) :=
    ⟨fun _ _ _ first second => le_trans first second⟩
  exact List.pairwise_insertionSort _ items

/-- Sorting items with different keys puts them in increasing order. -/
theorem sortBy_increasing {items : List α}
    (distinct : (items.map key).Nodup) :
    Increasing key (sortBy key items) := by
  have sortedDistinct : ((sortBy key items).map key).Nodup :=
    ((sortBy_perm items).map key).nodup_iff.mpr distinct
  have different : (sortBy key items).Pairwise
      (fun left right => key left ≠ key right) :=
    List.pairwise_map.mp sortedDistinct
  exact ((sortBy_pairwise items).and different).imp
    (fun both => lt_of_le_of_ne both.1 both.2)

theorem Increasing.distinct {items : List α}
    (increasing : Increasing key items) : (items.map key).Nodup :=
  List.pairwise_map.mpr (increasing.imp (fun less => ne_of_lt less))

theorem Increasing.nodup {items : List α}
    (increasing : Increasing key items) : items.Nodup :=
  increasing.imp (fun less same => absurd (congrArg key same) (ne_of_lt less))

/-- Increasing lists with the same elements are the same. -/
theorem Increasing.ext {left right : List α}
    (leftIncreasing : Increasing key left)
    (rightIncreasing : Increasing key right)
    (same : ∀ item, item ∈ left ↔ item ∈ right) : left = right := by
  have perm : left.Perm right :=
    (List.perm_ext_iff_of_nodup leftIncreasing.nodup
      rightIncreasing.nodup).mpr same
  apply perm.eq_of_pairwise _ leftIncreasing rightIncreasing
  intro first second _ _ less greater
  exact absurd greater (lt_asymm less)

theorem sortBy_eq_self {items : List α} (increasing : Increasing key items) :
    sortBy key items = items :=
  (sortBy_increasing increasing.distinct).ext increasing
    (fun _ => mem_sortBy)

/-- Where the key tells the items apart, their order does not matter. -/
theorem sortBy_eq_of_perm (injective : ∀ left right, key left = key right →
      left = right) {left right : List α} (perm : left.Perm right) :
    sortBy key left = sortBy key right := by
  have sorted : (sortBy key left).Perm (sortBy key right) :=
    (sortBy_perm left).trans (perm.trans (sortBy_perm right).symm)
  apply sorted.eq_of_pairwise _ (sortBy_pairwise left) (sortBy_pairwise right)
  intro first second _ _ less greater
  exact injective first second (le_antisymm less greater)

end Foundation.SortedKeys
