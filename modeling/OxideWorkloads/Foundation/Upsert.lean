/-
Upserts of several entries into a finite map.

An upsert of entries with distinct keys sets exactly these keys, whatever the
map held before; so it can be repeated, and upserts of different keys do not
see each other.
-/

import OxideWorkloads.Foundation.OrderedMap

namespace Foundation

namespace OrderedMap

variable {α β : Type} [LinearOrder α]

/-- Set the value at a key. -/
def insert (map : OrderedMap α β) (key : α) (value : β) : OrderedMap α β :=
  map.update key value (fun _ => value)

/-- Set the values of several keys, one after the other. -/
def insertAll (map : OrderedMap α β) (entries : List (α × β)) :
    OrderedMap α β :=
  entries.foldl (fun current entry => current.insert entry.1 entry.2) map

theorem get?_insert (map : OrderedMap α β) (key other : α) (value : β) :
    (map.insert key value).get? other =
      if other = key then some value else map.get? other :=
  get?_update map key other value (fun _ => value)

theorem get?_insertAll_of_notMem {map : OrderedMap α β}
    {entries : List (α × β)} {key : α}
    (absent : ∀ entry ∈ entries, entry.1 ≠ key) :
    (map.insertAll entries).get? key = map.get? key := by
  induction entries generalizing map with
  | nil => rfl
  | cons entry rest ih =>
      have parts := List.forall_mem_cons.mp absent
      have tail : ((map.insert entry.1 entry.2).insertAll rest).get? key =
          (map.insert entry.1 entry.2).get? key := ih parts.2
      rw [insertAll, List.foldl_cons]
      rw [insertAll] at tail
      rw [tail, get?_insert, if_neg (Ne.symm parts.1)]

theorem get?_insertAll_of_mem {map : OrderedMap α β}
    {entries : List (α × β)} {key : α} {value : β}
    (distinct : (entries.map Prod.fst).Nodup)
    (member : (key, value) ∈ entries) :
    (map.insertAll entries).get? key = some value := by
  induction entries generalizing map with
  | nil => exact absurd member List.not_mem_nil
  | cons entry rest ih =>
      have parts := List.nodup_cons.mp distinct
      rw [insertAll, List.foldl_cons]
      rcases List.mem_cons.mp member with atHead | inRest
      · have absent : ∀ other ∈ rest, other.1 ≠ key := by
          intro other inRest same
          apply parts.1
          rw [← atHead]
          exact List.mem_map.mpr ⟨other, inRest, same⟩
        have tail : ((map.insert entry.1 entry.2).insertAll rest).get? key =
            (map.insert entry.1 entry.2).get? key :=
          get?_insertAll_of_notMem absent
        rw [insertAll] at tail
        rw [tail, get?_insert, ← atHead, if_pos rfl]
      · exact ih parts.2 inRest

/-- The keys of a map are listed once each. -/
theorem keys_nodup (map : OrderedMap α β) :
    (map.entries.map Prod.fst).Nodup :=
  List.pairwise_map.mpr (map.sorted.imp (fun below => ne_of_lt below))

theorem lookupEntries_of_mem {entries : List (α × β)} {key : α} {value : β}
    (distinct : (entries.map Prod.fst).Nodup)
    (member : (key, value) ∈ entries) :
    lookupEntries key entries = some value := by
  induction entries with
  | nil => exact absurd member List.not_mem_nil
  | cons entry rest ih =>
      have parts := List.nodup_cons.mp distinct
      rcases List.mem_cons.mp member with atHead | inRest
      · rw [← atHead, lookupEntries, if_pos rfl]
      · have different : entry.1 ≠ key := by
          intro same
          apply parts.1
          rw [same]
          exact List.mem_map_of_mem inRest
        rw [lookupEntries, if_neg different]
        exact ih parts.2 inRest

theorem mem_of_lookupEntries {entries : List (α × β)} {key : α} {value : β}
    (found : lookupEntries key entries = some value) :
    (key, value) ∈ entries := by
  induction entries with
  | nil => cases found
  | cons entry rest ih =>
      rw [lookupEntries] at found
      split at found
      · rename_i same
        cases found
        rw [← same]
        exact List.mem_cons_self
      · exact List.mem_cons_of_mem _ (ih found)

/-- A key has a value exactly when the entry is listed. -/
theorem get?_eq_some {map : OrderedMap α β} {key : α} {value : β} :
    map.get? key = some value ↔ (key, value) ∈ map.entries := by
  constructor
  · intro found
    exact mem_of_lookupEntries found
  · intro member
    exact lookupEntries_of_mem map.keys_nodup member

/-- Two maps with the same lookups are the same map. -/
theorem eq_of_get? {first second : OrderedMap α β}
    (same : ∀ key value, first.get? key = some value ↔
      second.get? key = some value) : first = second := by
  have nodup : ∀ map : OrderedMap α β, map.entries.Nodup := fun map =>
    map.sorted.imp (fun below equal =>
      absurd (congrArg Prod.fst equal) (ne_of_lt below))
  have listed : first.entries.Perm second.entries := by
    rw [List.perm_ext_iff_of_nodup (nodup first) (nodup second)]
    intro entry
    rw [← get?_eq_some, ← get?_eq_some]
    exact same entry.1 entry.2
  have entries := listed.eq_of_pairwise (fun left right _ _ below above =>
    absurd (lt_trans below above) (lt_irrefl _)) first.sorted second.sorted
  obtain ⟨entries', sorted⟩ := first
  obtain ⟨entries'', sorted'⟩ := second
  cases entries
  rfl

end OrderedMap

end Foundation
