/-
Invariants that a program keeps however it ends.

Where a triple says what a run reaches, an invariant only says what no effect
of it can touch; a kill is no exception, since it leaves the state of the last
effect.
-/

import OxideWorkloads.Foundation.CrashRun

namespace Foundation

namespace CrashRun

variable {σ ε α β : Type} {kept : σ → Prop}

/-- The invariant survives the program, whatever comes of it. -/
def Keeps (kept : σ → Prop) (program : CrashRun σ ε α) : Prop :=
  ∀ state, kept state → kept (program state).2

theorem keeps_pure (value : α) : Keeps kept (pure value : CrashRun σ ε α) :=
  fun _ holds => holds

theorem keeps_fail (failure : ε) :
    Keeps kept (fail failure : CrashRun σ ε α) :=
  fun _ holds => holds

theorem keeps_kill : Keeps kept (kill : CrashRun σ ε α) :=
  fun _ holds => holds

theorem keeps_state : Keeps kept (CrashRun.state : CrashRun σ ε σ) :=
  fun _ holds => holds

theorem keeps_ofExcept (result : Except ε α) :
    Keeps kept (ofExcept result : CrashRun σ ε α) := by
  cases result with
  | ok value => exact keeps_pure value
  | error failure => exact keeps_fail failure

theorem keeps_modify {update : σ → σ}
    (closed : ∀ state, kept state → kept (update state)) :
    Keeps kept (modify update : CrashRun σ ε Unit) :=
  closed

/-- The rest of a program runs only with values that the first part returns. -/
theorem keeps_bind_returned {program : CrashRun σ ε α}
    {next : α → CrashRun σ ε β} (first : Keeps kept program)
    (rest : ∀ value state after, program state = (.ok value, after) →
      Keeps kept (next value)) :
    Keeps kept (program >>= next) := by
  intro state holds
  have middle := first state holds
  change kept (CrashRun.bind program next state).2
  unfold CrashRun.bind
  cases ending : program state with
  | mk outcome after =>
      rw [ending] at middle
      cases outcome with
      | ok value => exact rest value state after ending after middle
      | error failure => exact middle
      | killed => exact middle

theorem keeps_bind {program : CrashRun σ ε α} {next : α → CrashRun σ ε β}
    (first : Keeps kept program) (rest : ∀ value, Keeps kept (next value)) :
    Keeps kept (program >>= next) :=
  keeps_bind_returned first (fun value _ _ _ => rest value)

/-- A composed program either goes on with what its first part returns, or
stops where the first part did. -/
theorem bind_ends (program : CrashRun σ ε α)
    (next : α → CrashRun σ ε β) (state : σ) :
    (∃ value after, program state = (.ok value, after) ∧
      (program >>= next) state = next value after) ∨
    ((program >>= next) state).2 = (program state).2 := by
  cases ending : program state with
  | mk outcome after =>
      cases outcome with
      | ok value => exact .inl ⟨value, after, rfl, bind_ok ending next⟩
      | error failure =>
          right
          change (CrashRun.bind program next state).2 = after
          rw [CrashRun.bind, ending]
      | killed =>
          right
          change (CrashRun.bind program next state).2 = after
          rw [CrashRun.bind, ending]

theorem keeps_attempt {program : CrashRun σ ε α}
    (first : Keeps kept program) : Keeps kept (attempt program) := by
  intro state holds
  have middle := first state holds
  unfold attempt
  cases ending : program state with
  | mk outcome after =>
      rw [ending] at middle
      cases outcome <;> exact middle

theorem keeps_ite {condition : Prop} [Decidable condition]
    {yes no : CrashRun σ ε α} (onYes : Keeps kept yes)
    (onNo : Keeps kept no) :
    Keeps kept (if condition then yes else no) := by
  by_cases decided : condition
  · rw [if_pos decided]
    exact onYes
  · rw [if_neg decided]
    exact onNo

theorem Keeps.wp {program : CrashRun σ ε α} {state : σ}
    (keeps : Keeps kept program) (holds : kept state) :
    wp program (Post.always kept) state := by
  have after := keeps state holds
  unfold CrashRun.wp
  cases ending : program state with
  | mk outcome last =>
      rw [ending] at after
      cases outcome <;> exact after

/-- What is known of a program only if it returns. -/
theorem wp_returned {program : CrashRun σ ε α} {state : σ}
    {returns : α → σ → Prop}
    (known : ∀ value after, program state = (.ok value, after) →
      returns value after) :
    CrashRun.wp program
      { ok := returns
        error := fun _ _ => True
        killed := fun _ => True } state := by
  unfold CrashRun.wp
  cases ending : program state with
  | mk outcome last =>
      cases outcome with
      | ok value => exact known value last ending
      | error failure => trivial
      | killed => trivial

end CrashRun

end Foundation
