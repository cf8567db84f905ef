/-
A table with a key, held as a list of rows, and the statement that inserts a
row or updates the one with its key.
-/

import Mathlib.Data.List.Basic

namespace Foundation

namespace KeyedRows

variable {ρ : Type} (mine : ρ → Bool) (update : ρ → ρ) (row : ρ)

/-- Update the first row with the key, or add one at the end. -/
def upsert : List ρ → List ρ
  | [] => [row]
  | other :: rest =>
      if mine other then update other :: rest else other :: upsert rest

variable {mine update row}

/-- A row with the key is found afterwards. -/
theorem find_upsert (fits : mine row = true)
    (keeps : ∀ other, mine other = true → mine (update other) = true)
    (rows : List ρ) :
    ∃ written, (upsert mine update row rows).find? mine = some written ∧
      (written = row ∨ ∃ other, written = update other) := by
  induction rows with
  | nil =>
      refine ⟨row, ?_, Or.inl rfl⟩
      rw [upsert, List.find?_cons, fits]
  | cons other rest ih =>
      rw [upsert]
      by_cases found : mine other = true
      · refine ⟨update other, ?_, Or.inr ⟨other, rfl⟩⟩
        rw [if_pos found, List.find?_cons, keeps other found]
      · rw [if_neg found, List.find?_cons, Bool.eq_false_iff.mpr found]
        exact ih

/-- What is selected among the rows without the key stays as it is. -/
theorem filter_upsert {theirs : ρ → Bool}
    (apart : ∀ other, mine other = true → theirs other = false)
    (fits : mine row = true)
    (keeps : ∀ other, mine other = true → mine (update other) = true)
    (rows : List ρ) :
    (upsert mine update row rows).filter theirs = rows.filter theirs := by
  induction rows with
  | nil =>
      rw [upsert, List.filter_cons, apart row fits]
      rfl
  | cons other rest ih =>
      rw [upsert]
      by_cases found : mine other = true
      · rw [if_pos found, List.filter_cons, List.filter_cons,
          apart _ (keeps other found), apart other found]
        rfl
      · rw [if_neg found, List.filter_cons, List.filter_cons, ih]

theorem find_upsert_other {theirs : ρ → Bool}
    (apart : ∀ other, mine other = true → theirs other = false)
    (fits : mine row = true)
    (keeps : ∀ other, mine other = true → mine (update other) = true)
    (rows : List ρ) :
    (upsert mine update row rows).find? theirs = rows.find? theirs := by
  rw [← List.head?_filter, ← List.head?_filter,
    filter_upsert apart fits keeps]

end KeyedRows

end Foundation
