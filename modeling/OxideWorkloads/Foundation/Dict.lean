/-
Dictionaries whose keys are kept in the order in which they first came.
-/

import Mathlib.Data.List.Basic
import Mathlib.Data.List.Nodup

namespace Foundation

/-- Entries with different keys, in the order of their first assignment. -/
structure Dict (α β : Type) where
  entries : List (α × β)
  distinct : (entries.map Prod.fst).Nodup

namespace Dict

variable {α β : Type} [DecidableEq α]

def empty : Dict α β :=
  { entries := []
    distinct := List.nodup_nil }

/-! ### Lists of entries -/

def find (key : α) : List (α × β) → Option β
  | [] => none
  | (head, value) :: rest =>
      if head = key then some value else find key rest

def assign (key : α) (value : β) : List (α × β) → List (α × β)
  | [] => [(key, value)]
  | (head, old) :: rest =>
      if head = key then (head, value) :: rest
      else (head, old) :: assign key value rest

theorem assign_keys (key : α) (value : β) (entries : List (α × β)) :
    (assign key value entries).map Prod.fst =
      if key ∈ entries.map Prod.fst then entries.map Prod.fst
      else entries.map Prod.fst ++ [key] := by
  induction entries with
  | nil => rfl
  | cons entry rest ih =>
      rw [assign, List.map_cons]
      by_cases same : entry.1 = key
      · rw [if_pos same, if_pos (List.mem_cons.mpr (Or.inl same.symm))]
        rfl
      · rw [if_neg same, List.map_cons, ih]
        by_cases later : key ∈ rest.map Prod.fst
        · rw [if_pos later, if_pos (List.mem_cons_of_mem _ later)]
        · have absent : key ∉ entry.1 :: rest.map Prod.fst := by
            intro member
            rcases List.mem_cons.mp member with here | there
            · exact same here.symm
            · exact later there
          rw [if_neg later, if_neg absent]
          rfl

theorem assign_distinct (key : α) (value : β) {entries : List (α × β)}
    (distinct : (entries.map Prod.fst).Nodup) :
    ((assign key value entries).map Prod.fst).Nodup := by
  rw [assign_keys]
  split
  · exact distinct
  · rename_i absent
    rw [List.nodup_append]
    refine ⟨distinct, List.nodup_singleton key, ?_⟩
    intro first firstIn second secondIn same
    rw [List.mem_singleton] at secondIn
    rw [same, secondIn] at firstIn
    exact absent firstIn

theorem find_assign (key other : α) (value : β) (entries : List (α × β)) :
    find other (assign key value entries) =
      if key = other then some value else find other entries := by
  induction entries with
  | nil => rfl
  | cons entry rest ih =>
      rw [assign]
      by_cases same : entry.1 = key
      · rw [if_pos same, find, find, same]
        split
        · rfl
        · rfl
      · rw [if_neg same, find, find, ih]
        by_cases here : entry.1 = other
        · have different : ¬key = other :=
            fun equal => same (here.trans equal.symm)
          rw [if_pos here, if_pos here, if_neg different]
        · rw [if_neg here, if_neg here]

theorem find_eq_some_iff {key : α} {value : β} {entries : List (α × β)}
    (distinct : (entries.map Prod.fst).Nodup) :
    find key entries = some value ↔ (key, value) ∈ entries := by
  induction entries with
  | nil =>
      constructor
      · intro impossible
        cases impossible
      · intro member
        cases member
  | cons entry rest ih =>
      obtain ⟨head, old⟩ := entry
      rw [List.map_cons, List.nodup_cons] at distinct
      rw [find, List.mem_cons, Prod.mk.injEq]
      by_cases same : head = key
      · rw [if_pos same, Option.some.injEq]
        have absent : (key, value) ∉ rest := by
          intro member
          apply distinct.1
          rw [same]
          exact List.mem_map.mpr ⟨(key, value), member, rfl⟩
        constructor
        · intro equal
          exact Or.inl ⟨same.symm, equal.symm⟩
        · rintro (here | there)
          · exact here.2.symm
          · exact absurd there absent
      · rw [if_neg same, ih distinct.2]
        constructor
        · exact Or.inr
        · rintro (here | there)
          · exact absurd here.1.symm same
          · exact there

theorem find_isSome_iff {key : α} {entries : List (α × β)} :
    (find key entries).isSome ↔ key ∈ entries.map Prod.fst := by
  induction entries with
  | nil =>
      constructor
      · intro impossible
        cases impossible
      · intro member
        cases member
  | cons entry rest ih =>
      rw [find, List.map_cons, List.mem_cons]
      by_cases same : entry.1 = key
      · rw [if_pos same]
        exact iff_of_true rfl (Or.inl same.symm)
      · rw [if_neg same, ih]
        constructor
        · exact Or.inr
        · rintro (here | there)
          · exact absurd here.symm same
          · exact there

/-! ### Dictionaries -/

def get? (dict : Dict α β) (key : α) : Option β :=
  find key dict.entries

def keys (dict : Dict α β) : List α :=
  dict.entries.map Prod.fst

def set (dict : Dict α β) (key : α) (value : β) : Dict α β :=
  { entries := assign key value dict.entries
    distinct := assign_distinct key value dict.distinct }

theorem get?_set (dict : Dict α β) (key other : α) (value : β) :
    (dict.set key value).get? other =
      if key = other then some value else dict.get? other :=
  find_assign key other value dict.entries

theorem mem_keys_iff {dict : Dict α β} {key : α} :
    key ∈ dict.keys ↔ (dict.get? key).isSome :=
  find_isSome_iff.symm

theorem mem_keys_set {dict : Dict α β} {key other : α} {value : β} :
    other ∈ (dict.set key value).keys ↔ key = other ∨ other ∈ dict.keys := by
  rw [mem_keys_iff, get?_set, mem_keys_iff]
  by_cases same : key = other
  · rw [if_pos same]
    exact iff_of_true rfl (Or.inl same)
  · rw [if_neg same, or_iff_right same]

theorem mem_entries_iff {dict : Dict α β} {key : α} {value : β} :
    (key, value) ∈ dict.entries ↔ dict.get? key = some value :=
  (find_eq_some_iff dict.distinct).symm

end Dict

end Foundation
