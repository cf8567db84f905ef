/-
Statements sent one after another, until one is refused.
-/

import Mathlib.Data.List.Basic

namespace Foundation

namespace Sending

variable {δ ε τ : Type}

/-- The statements that are sent, the refused one among them, and what becomes
of the state. -/
def sendAll (execute : δ → τ → Except ε δ) :
    δ → List τ → List τ × Except ε δ
  | state, [] => ([], .ok state)
  | state, statement :: rest =>
      match execute state statement with
      | .error error => ([statement], .error error)
      | .ok after =>
          (statement :: (sendAll execute after rest).1,
            (sendAll execute after rest).2)

theorem sendAll_error {execute : δ → τ → Except ε δ} {state : δ}
    {statement : τ} {error : ε} (rest : List τ)
    (refused : execute state statement = .error error) :
    sendAll execute state (statement :: rest) =
      ([statement], .error error) := by
  rw [sendAll, refused]

theorem sendAll_ok {execute : δ → τ → Except ε δ} {state after : δ}
    {statement : τ} (rest : List τ)
    (taken : execute state statement = .ok after) :
    sendAll execute state (statement :: rest) =
      (statement :: (sendAll execute after rest).1,
        (sendAll execute after rest).2) := by
  rw [sendAll, taken]

/-- The statements are sent in their order, from the first one. -/
theorem sent_initial (execute : δ → τ → Except ε δ) (state : δ)
    (statements : List τ) :
    (sendAll execute state statements).1 <+: statements := by
  induction statements generalizing state with
  | nil => exact List.nil_prefix
  | cons statement rest ih =>
      cases outcome : execute state statement with
      | error error =>
          rw [sendAll_error rest outcome]
          exact ⟨rest, rfl⟩
      | ok after =>
          rw [sendAll_ok rest outcome]
          exact (List.prefix_cons_inj statement).mpr (ih after)

/-- If the last state is returned, all statements were sent and taken. -/
theorem accepted_all {execute : δ → τ → Except ε δ} {state last : δ}
    {statements : List τ}
    (accepted : (sendAll execute state statements).2 = .ok last) :
    (sendAll execute state statements).1 = statements := by
  induction statements generalizing state with
  | nil => rfl
  | cons statement rest ih =>
      cases outcome : execute state statement with
      | error error =>
          rw [sendAll_error rest outcome] at accepted
          cases accepted
      | ok after =>
          rw [sendAll_ok rest outcome] at accepted ⊢
          rw [ih accepted]

/-- An error is that of the last statement sent; all before it were taken. -/
theorem refused_last {execute : δ → τ → Except ε δ} {state : δ}
    {statements : List τ} {error : ε}
    (refused : (sendAll execute state statements).2 = .error error) :
    ∃ before last reached,
      (sendAll execute state statements).1 = before ++ [last] ∧
        before.foldlM execute state = .ok reached ∧
        execute reached last = .error error := by
  induction statements generalizing state with
  | nil => cases refused
  | cons statement rest ih =>
      cases outcome : execute state statement with
      | error other =>
          rw [sendAll_error rest outcome] at refused ⊢
          cases refused
          exact ⟨[], statement, state, rfl, rfl, outcome⟩
      | ok after =>
          rw [sendAll_ok rest outcome] at refused ⊢
          obtain ⟨before, last, reached, sent, taken, fails⟩ := ih refused
          refine ⟨statement :: before, last, reached, ?_, ?_, fails⟩
          · rw [sent, List.cons_append]
          · rw [List.foldlM_cons, outcome]
            exact taken

/-- What becomes of the state is decided by the statements that are sent. -/
theorem sent_result (execute : δ → τ → Except ε δ) (state : δ)
    (statements : List τ) :
    (sendAll execute state statements).1.foldlM execute state =
      (sendAll execute state statements).2 := by
  induction statements generalizing state with
  | nil => rfl
  | cons statement rest ih =>
      cases outcome : execute state statement with
      | error error =>
          rw [sendAll_error rest outcome, List.foldlM_cons, outcome]
          rfl
      | ok after =>
          rw [sendAll_ok rest outcome, List.foldlM_cons, outcome]
          exact ih after

end Sending

end Foundation
