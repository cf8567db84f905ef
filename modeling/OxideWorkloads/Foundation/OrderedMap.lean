/-
Finite maps with ordered keys, as strictly sorted association lists.

The operations are the three that a map-building scan and a frontier walk
need: lookup, update of the entry at a key (inserting a default first), and
the least key above a given one.  A map carries the proof that its keys
increase, so two maps with the same lookups are equal as data.
-/

import Mathlib.Order.Lattice
import Mathlib.Data.List.Basic

namespace Foundation

/-- A finite map whose entries are listed with strictly increasing keys. -/
structure OrderedMap (α β : Type) [LinearOrder α] where
  entries : List (α × β)
  sorted : entries.Pairwise (fun left right => left.1 < right.1)

namespace OrderedMap

variable {α β : Type} [LinearOrder α]

def empty : OrderedMap α β :=
  { entries := []
    sorted := List.Pairwise.nil }

/-! ### Sorted lists of entries -/

def lookupEntries (key : α) : List (α × β) → Option β
  | [] => none
  | (head, value) :: rest =>
      if head = key then some value else lookupEntries key rest

def updateEntries (key : α) (default : β) (change : β → β) :
    List (α × β) → List (α × β)
  | [] => [(key, change default)]
  | (head, value) :: rest =>
      if head < key then
        (head, value) :: updateEntries key default change rest
      else if head = key then (head, change value) :: rest
      else (key, change default) :: (head, value) :: rest

theorem updateEntries_key (key : α) (default : β) (change : β → β)
    (entries : List (α × β)) (entry : α × β)
    (member : entry ∈ updateEntries key default change entries) :
    entry.1 = key ∨ ∃ old ∈ entries, old.1 = entry.1 := by
  induction entries with
  | nil =>
      simp only [updateEntries, List.mem_singleton] at member
      exact Or.inl (by rw [member])
  | cons head rest ih =>
      rcases head with ⟨headKey, headValue⟩
      unfold updateEntries at member
      split at member
      · rcases List.mem_cons.mp member with atHead | inRest
        · exact Or.inr ⟨_, List.mem_cons_self, by rw [atHead]⟩
        · rcases ih inRest with same | ⟨old, present, same⟩
          · exact Or.inl same
          · exact Or.inr ⟨old, List.mem_cons_of_mem _ present, same⟩
      · split at member
        · rcases List.mem_cons.mp member with atHead | inRest
          · exact Or.inr ⟨_, List.mem_cons_self, by rw [atHead]⟩
          · exact Or.inr ⟨entry, List.mem_cons_of_mem _ inRest, rfl⟩
        · rcases List.mem_cons.mp member with atHead | inRest
          · exact Or.inl (by rw [atHead])
          · exact Or.inr ⟨entry, inRest, rfl⟩

theorem updateEntries_sorted (key : α) (default : β) (change : β → β)
    (entries : List (α × β))
    (sorted : entries.Pairwise (fun left right => left.1 < right.1)) :
    (updateEntries key default change entries).Pairwise
      (fun left right => left.1 < right.1) := by
  induction entries with
  | nil => exact List.pairwise_singleton _ _
  | cons head rest ih =>
      rcases head with ⟨headKey, headValue⟩
      have parts := List.pairwise_cons.mp sorted
      unfold updateEntries
      split
      · rename_i before
        refine List.pairwise_cons.mpr ⟨?_, ih parts.2⟩
        intro entry member
        rcases updateEntries_key key default change rest entry member with
          same | ⟨old, present, same⟩
        · rw [same]
          exact before
        · rw [← same]
          exact parts.1 old present
      · rename_i notBefore
        split
        · exact List.pairwise_cons.mpr ⟨parts.1, parts.2⟩
        · rename_i different
          have above : key < headKey :=
            lt_of_le_of_ne (not_lt.mp notBefore) (Ne.symm different)
          refine List.pairwise_cons.mpr ⟨?_, sorted⟩
          intro entry member
          rcases List.mem_cons.mp member with atHead | inRest
          · rw [atHead]
            exact above
          · exact lt_trans above (parts.1 entry inRest)

theorem lookupEntries_of_above (key : α) (entries : List (α × β))
    (above : ∀ entry ∈ entries, key < entry.1) :
    lookupEntries key entries = none := by
  induction entries with
  | nil => rfl
  | cons head rest ih =>
      rcases head with ⟨headKey, headValue⟩
      have headAbove : key < headKey := above _ List.mem_cons_self
      unfold lookupEntries
      rw [if_neg (ne_of_gt headAbove)]
      exact ih (fun entry member => above entry (List.mem_cons_of_mem _ member))

theorem lookupEntries_updateEntries (key other : α) (default : β)
    (change : β → β) (entries : List (α × β))
    (sorted : entries.Pairwise (fun left right => left.1 < right.1)) :
    lookupEntries other (updateEntries key default change entries) =
      if other = key then
        some (change ((lookupEntries key entries).getD default))
      else lookupEntries other entries := by
  induction entries with
  | nil =>
      by_cases same : other = key
      · simp [updateEntries, lookupEntries, same]
      · simp [updateEntries, lookupEntries, same, Ne.symm same]
  | cons head rest ih =>
      rcases head with ⟨headKey, headValue⟩
      have parts := List.pairwise_cons.mp sorted
      unfold updateEntries
      split
      · rename_i before
        simp only [lookupEntries, ih parts.2, if_neg (ne_of_lt before)]
        by_cases atHead : headKey = other
        · rw [if_pos atHead, if_pos atHead,
            if_neg (by rw [← atHead]; exact ne_of_lt before)]
        · rw [if_neg atHead, if_neg atHead]
      · rename_i notBefore
        split
        · rename_i same
          subst same
          by_cases atHead : headKey = other
          · simp [lookupEntries, atHead]
          · simp [lookupEntries, atHead, Ne.symm atHead]
        · rename_i different
          have above : key < headKey :=
            lt_of_le_of_ne (not_lt.mp notBefore) (Ne.symm different)
          have missing : lookupEntries key ((headKey, headValue) :: rest) =
              none := by
            apply lookupEntries_of_above
            intro entry member
            rcases List.mem_cons.mp member with atHead | inRest
            · rw [atHead]
              exact above
            · exact lt_trans above (parts.1 entry inRest)
          rw [missing]
          by_cases same : other = key
          · rw [if_pos same]
            simp [lookupEntries, same]
          · rw [if_neg same]
            simp [lookupEntries, Ne.symm same]

theorem lookupEntries_isSome (key : α) (entries : List (α × β)) :
    (lookupEntries key entries).isSome ↔ ∃ entry ∈ entries, entry.1 = key := by
  induction entries with
  | nil => simp [lookupEntries]
  | cons head rest ih =>
      rcases head with ⟨headKey, headValue⟩
      by_cases same : headKey = key
      · simp [lookupEntries, same]
      · rw [lookupEntries, if_neg same, ih]
        simp [same]

/-! ### The map operations -/

/-- The value at a key. -/
def get? (map : OrderedMap α β) (key : α) : Option β :=
  lookupEntries key map.entries

/-- Change the value at a key, starting from a default when it is absent. -/
def update (map : OrderedMap α β) (key : α) (default : β)
    (change : β → β) : OrderedMap α β :=
  { entries := updateEntries key default change map.entries
    sorted := updateEntries_sorted key default change map.entries map.sorted }

/-- The least key strictly above a bound. -/
def firstAbove (map : OrderedMap α β) (bound : α) : Option α :=
  (map.entries.find? (fun entry => bound < entry.1)).map Prod.fst

/-- A key has a value. -/
def Present (map : OrderedMap α β) (key : α) : Prop :=
  (map.get? key).isSome

@[simp] theorem get?_empty (key : α) :
    (empty : OrderedMap α β).get? key = none :=
  rfl

theorem get?_update (map : OrderedMap α β) (key other : α) (default : β)
    (change : β → β) :
    (map.update key default change).get? other =
      if other = key then some (change ((map.get? key).getD default))
      else map.get? other :=
  lookupEntries_updateEntries key other default change map.entries map.sorted

theorem firstAbove_eq_none (map : OrderedMap α β) (bound : α) :
    map.firstAbove bound = none ↔ ∀ key, map.Present key → key ≤ bound := by
  unfold firstAbove Present get?
  rw [Option.map_eq_none_iff, List.find?_eq_none]
  constructor
  · intro noneAbove key present
    obtain ⟨entry, member, same⟩ := (lookupEntries_isSome key _).mp present
    have below := noneAbove entry member
    simp only [decide_eq_true_eq, not_lt] at below
    rw [← same]
    exact below
  · intro allBelow entry member
    have below := allBelow entry.1
      ((lookupEntries_isSome entry.1 _).mpr ⟨entry, member, rfl⟩)
    simpa using below

theorem firstAbove_isSome (map : OrderedMap α β) (bound : α) :
    (map.firstAbove bound).isSome ↔ ∃ key, map.Present key ∧ bound < key := by
  rw [← not_iff_not, Option.not_isSome_iff_eq_none, firstAbove_eq_none]
  simp

end OrderedMap

end Foundation
