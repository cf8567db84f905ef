/-
Families of runs that go the same way.

The states of a family differ only in parts that decide nothing: every member
returns, every member fails, or every member is killed, and what is known of
the family before a program is known again after it.

Nothing here mentions a particular state, effect or error.
-/

import OxideWorkloads.Foundation.CrashRun

namespace Foundation

open CrashRun

variable {ι σ ε α β : Type}

/-- All members are equal. -/
def Same (family : ι → α) : Prop :=
  ∃ value, family = fun _ => value

/-- One way for all members: `states` is known of the states, `known` of the
returns and `failures` of the failures. -/
inductive EndsAlike (states : (ι → σ) → Prop) (known : (ι → α) → Prop)
    (failures : (ι → ε) → Prop) (result : ι → Outcome ε α × σ) : Prop
  | ok (values : ι → α) (after : ι → σ) (holds : known values)
      (goesOn : states after)
      (ends : result = fun index => (.ok (values index), after index))
  | error (errors : ι → ε) (after : ι → σ) (holds : failures errors)
      (goesOn : states after)
      (ends : result = fun index => (.error (errors index), after index))
  | killed (after : ι → σ) (goesOn : states after)
      (ends : result = fun index => (.killed, after index))

/-- Every family of such states goes one way through the programs. -/
def Uniform (states : (ι → σ) → Prop) (known : (ι → α) → Prop)
    (failures : (ι → ε) → Prop) (programs : ι → CrashRun σ ε α) : Prop :=
  ∀ family, states family →
    EndsAlike states known failures
      (fun index => programs index (family index))

/-! ### Ends of programs that do not return -/

section Stops

variable {program : CrashRun σ ε α} {state after : σ}

end Stops

/-! ### Rules -/

section Rules

variable {states : (ι → σ) → Prop} {failures : (ι → ε) → Prop}
  {known : (ι → α) → Prop} {learnt : (ι → β) → Prop}

theorem uniform_mono {weaker : (ι → α) → Prop} {other : (ι → ε) → Prop}
    {programs : ι → CrashRun σ ε α}
    (holds : Uniform states known failures programs)
    (onOk : ∀ values, known values → weaker values)
    (onError : ∀ errors, failures errors → other errors) :
    Uniform states weaker other programs := by
  intro family before
  cases holds family before with
  | ok values after holds goesOn ends =>
      exact .ok values after (onOk values holds) goesOn ends
  | error errors after holds goesOn ends =>
      exact .error errors after (onError errors holds) goesOn ends
  | killed after goesOn ends => exact .killed after goesOn ends

end Rules

end Foundation
