/-
Programs on one part of a state, and programs whose answers are written down
before they run.

The answers of a closure that is called again and again form a sequence; a
script is such a sequence, and the state of a scripted program is the number
of the next answer.
-/

import OxideWorkloads.Foundation.CrashRun

namespace Foundation

/-- What the program returned. -/
def Outcome.toOption {ε α : Type} : Outcome ε α → Option α
  | .ok value => some value
  | _ => none

namespace CrashRun

variable {σ τ ε α : Type}

/-- The program on the first part of a state. -/
def onFirst (program : CrashRun σ ε α) : CrashRun (σ × τ) ε α :=
  fun state => ((program state.1).1, ((program state.1).2, state.2))

/-- The program on the second part of a state. -/
def onSecond (program : CrashRun τ ε α) : CrashRun (σ × τ) ε α :=
  fun state => ((program state.2).1, (state.1, (program state.2).2))

/-- Give the next answer of a script. -/
def scripted (answers : Nat → Outcome ε α) : CrashRun Nat ε α :=
  fun index => (answers index, index + 1)

@[simp] theorem onFirst_run (program : CrashRun σ ε α) (state : σ × τ) :
    onFirst program state =
      ((program state.1).1, ((program state.1).2, state.2)) :=
  rfl

@[simp] theorem onSecond_run (program : CrashRun τ ε α) (state : σ × τ) :
    onSecond program state =
      ((program state.2).1, (state.1, (program state.2).2)) :=
  rfl

@[simp] theorem scripted_run (answers : Nat → Outcome ε α) (index : Nat) :
    scripted answers index = (answers index, index + 1) :=
  rfl

/-- What a program answers is all that a caller on another part sees. -/
theorem wp_onFirst (program : CrashRun σ ε α) (post : Post (σ × τ) ε α)
    (state : σ × τ) :
    wp (onFirst program) post state ↔
      wp program
        { ok := fun value after => post.ok value (after, state.2)
          error := fun failure after => post.error failure (after, state.2)
          killed := fun after => post.killed (after, state.2) } state.1 := by
  unfold wp
  rw [onFirst_run]
  cases program state.1 with
  | mk outcome after => cases outcome <;> exact Iff.rfl

theorem wp_onSecond (program : CrashRun τ ε α) (post : Post (σ × τ) ε α)
    (state : σ × τ) :
    wp (onSecond program) post state ↔
      wp program
        { ok := fun value after => post.ok value (state.1, after)
          error := fun failure after => post.error failure (state.1, after)
          killed := fun after => post.killed (state.1, after) } state.2 := by
  unfold wp
  rw [onSecond_run]
  cases program state.2 with
  | mk outcome after => cases outcome <;> exact Iff.rfl

/-- Programs that begin alike and go on alike end alike. -/
theorem bind_alike {β : Type} {program : CrashRun σ ε α}
    {other : CrashRun τ ε α} {next : α → CrashRun σ ε β}
    {after : α → CrashRun τ ε β} {state : σ} {twin : τ}
    (begins : (program state).1 = (other twin).1)
    (goesOn : ∀ value, (program state).1 = .ok value →
      (next value (program state).2).1 = (after value (other twin).2).1) :
    ((program >>= next) state).1 = ((other >>= after) twin).1 := by
  change (CrashRun.bind program next state).1 =
    (CrashRun.bind other after twin).1
  unfold CrashRun.bind
  cases left : program state with
  | mk outcome here =>
      cases right : other twin with
      | mk answer there =>
          rw [left, right] at begins
          simp only at begins
          subst begins
          cases outcome with
          | ok value =>
              have rest := goesOn value (by rw [left])
              rw [left, right] at rest
              exact rest
          | error failure => rfl
          | killed => rfl

theorem ofExcept_alike {β : Type} {result : Except ε α}
    {next : α → CrashRun σ ε β} {after : α → CrashRun τ ε β} {state : σ}
    {twin : τ}
    (goesOn : ∀ value, result = .ok value →
      (next value state).1 = (after value twin).1) :
    ((ofExcept result >>= next) state).1 =
      ((ofExcept result >>= after) twin).1 := by
  cases result with
  | ok value => exact goesOn value rfl
  | error failure => rfl

theorem wp_scripted (answers : Nat → Outcome ε α) (post : Post Nat ε α)
    (index : Nat) :
    wp (scripted answers) post index ↔
      post.Holds (answers index, index + 1) :=
  Iff.rfl

end CrashRun

end Foundation
