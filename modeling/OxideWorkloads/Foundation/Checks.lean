/-
Sequences of checks that stop at the first error.

A chain of checks succeeds exactly when each of them does; the lemmas here
turn the success of a chain into the list of its conditions and back.
-/

import Mathlib.Data.List.Forall2

namespace Foundation

namespace Checks

variable {ε α β : Type}

/-- Fail with a message unless a condition holds. -/
def ensure (condition : Prop) [Decidable condition] (failure : ε) :
    Except ε Unit :=
  if condition then .ok () else .error failure

/-- Take a value that must be present. -/
def require (value : Option α) (failure : ε) : Except ε α :=
  match value with
  | some present => .ok present
  | none => .error failure

/-- Put what was being done in front of the error. -/
def context (doing : String) (result : Except String α) : Except String α :=
  match result with
  | .ok value => .ok value
  | .error error => .error (doing ++ ": " ++ error)

@[simp] theorem ok_bind (value : α) (next : α → Except ε β) :
    (Except.ok value >>= next) = next value :=
  rfl

@[simp] theorem error_bind (failure : ε) (next : α → Except ε β) :
    (Except.error failure >>= next) = Except.error failure :=
  rfl

@[simp] theorem bind_eq_ok {result : Except ε α} {next : α → Except ε β}
    {value : β} :
    (result >>= next) = .ok value ↔
      ∃ middle, result = .ok middle ∧ next middle = .ok value := by
  cases result with
  | error failure => simp
  | ok middle => simp

@[simp] theorem pure_eq_ok {given value : α} :
    (pure given : Except ε α) = .ok value ↔ given = value := by
  constructor
  · intro same
    cases same
    rfl
  · rintro rfl
    rfl

@[simp] theorem ensure_eq_ok {condition : Prop} [Decidable condition]
    {failure : ε} {value : Unit} :
    ensure condition failure = .ok value ↔ condition := by
  unfold ensure
  by_cases holds : condition <;> simp [holds]

@[simp] theorem require_eq_ok {option : Option α} {failure : ε} {value : α} :
    require option failure = .ok value ↔ option = some value := by
  cases option <;> simp [require]

@[simp] theorem context_eq_ok {doing : String} {result : Except String α}
    {value : α} : context doing result = .ok value ↔ result = .ok value := by
  cases result <;> simp [context]

theorem forM_eq_ok {check : α → Except ε Unit} {items : List α}
    {value : Unit} :
    items.forM check = .ok value ↔ ∀ item ∈ items, check item = .ok () := by
  induction items with
  | nil =>
      constructor
      · intro _ item member
        cases member
      · intro _
        rfl
  | cons item rest ih =>
      change (check item >>= fun _ => rest.forM check) = .ok value ↔ _
      rw [bind_eq_ok, List.forall_mem_cons, ← ih]
      constructor
      · intro checked
        obtain ⟨_, first, others⟩ := checked
        exact ⟨first, others⟩
      · intro checked
        exact ⟨(), checked.1, checked.2⟩

theorem mapM_eq_ok {step : α → Except ε β} {items : List α}
    {values : List β} :
    items.mapM step = .ok values ↔
      List.Forall₂ (fun item value => step item = .ok value) items values := by
  induction items generalizing values with
  | nil =>
      rw [List.mapM_nil, pure_eq_ok, List.forall₂_nil_left_iff, eq_comm]
  | cons item rest ih =>
      rw [List.mapM_cons, List.forall₂_cons_left_iff]
      simp only [bind_eq_ok, pure_eq_ok, ih]
      constructor
      · intro collected
        obtain ⟨value, first, others, related, same⟩ := collected
        exact ⟨value, others, first, related, same.symm⟩
      · intro related
        obtain ⟨value, others, first, others_, same⟩ := related
        exact ⟨value, first, others, others_, same.symm⟩

/-- Every value on the right is related to one on the left. -/
theorem exists_of_forall₂ {related : α → β → Prop} {lefts : List α}
    {rights : List β} (pairs : List.Forall₂ related lefts rights) {right : β}
    (member : right ∈ rights) : ∃ left ∈ lefts, related left right := by
  induction pairs with
  | nil => cases member
  | @cons left here _ _ first _ ih =>
      rcases List.mem_cons.mp member with atHead | inRest
      · rw [atHead]
        exact ⟨left, List.mem_cons_self, first⟩
      · obtain ⟨other, inLefts, holds⟩ := ih inRest
        exact ⟨other, List.mem_cons_of_mem _ inLefts, holds⟩

/-- Every value on the left is related to one on the right. -/
theorem exists_of_forall₂_left {related : α → β → Prop} {lefts : List α}
    {rights : List β} (pairs : List.Forall₂ related lefts rights) {left : α}
    (member : left ∈ lefts) : ∃ right ∈ rights, related left right := by
  induction pairs with
  | nil => cases member
  | @cons here right _ _ first _ ih =>
      rcases List.mem_cons.mp member with atHead | inRest
      · rw [atHead]
        exact ⟨right, List.mem_cons_self, first⟩
      · obtain ⟨other, inRights, holds⟩ := ih inRest
        exact ⟨other, List.mem_cons_of_mem _ inRights, holds⟩

/-- Related values with one label have the same lists of labels. -/
theorem map_eq_of_forall₂ {γ : Type} {left : α → γ} {right : β → γ}
    {lefts : List α} {rights : List β}
    (pairs : List.Forall₂ (fun one other => right other = left one)
      lefts rights) : rights.map right = lefts.map left := by
  induction pairs with
  | nil => rfl
  | cons first _ ih => rw [List.map_cons, List.map_cons, first, ih]

/-- Labels that are read off the values, each value with its own fact. -/
theorem forall₂_label {label : β → α} {holds : β → Prop} {labels : List α}
    {values : List β} :
    List.Forall₂ (fun given value => label value = given ∧ holds value)
        labels values ↔
      values.map label = labels ∧ ∀ value ∈ values, holds value := by
  induction values generalizing labels with
  | nil =>
      rw [List.forall₂_nil_right_iff]
      simp [eq_comm]
  | cons value rest ih =>
      rw [List.forall₂_cons_right_iff, List.map_cons, List.forall_mem_cons]
      constructor
      · intro related
        obtain ⟨given, others, first, tail, same⟩ := related
        have parts := ih.mp tail
        rw [same, first.1, parts.1]
        exact ⟨rfl, first.2, parts.2⟩
      · intro parts
        exact ⟨label value, rest.map label, ⟨rfl, parts.2.1⟩,
          ih.mpr ⟨rfl, parts.2.2⟩, parts.1.symm⟩

end Checks

end Foundation
