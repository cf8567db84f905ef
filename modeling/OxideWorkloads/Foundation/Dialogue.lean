/-
Conversations with a machine that answers one call after another.

A watched machine answers as the plain one does until something fires; what
it did before decides when that is.  The plain machine alone then tells
whether a whole conversation goes by undisturbed.

Nothing here mentions a particular call, answer or state.
-/

import Mathlib.Data.List.Basic

namespace Foundation.Dialogue

variable {Call Answer σ τ γ : Type}

section Converse

variable (halted : Answer → Bool) (answer : Call → σ → Answer × σ)

/-- The answers to calls one after another, up to one that never comes. -/
def converse : List Call → σ → List Answer × σ
  | [], state => ([], state)
  | call :: rest, state =>
      let result := answer call state
      if halted result.1 then ([result.1], result.2)
      else
        let later := converse rest result.2
        (result.1 :: later.1, later.2)

end Converse

section Converse

variable {halted : Answer → Bool} {answer : Call → σ → Answer × σ}
  {call : Call} {calls : List Call} {state : σ}

theorem converse_halted (stops : halted (answer call state).1 = true) :
    converse halted answer (call :: calls) state =
      ([(answer call state).1], (answer call state).2) := by
  rw [converse]
  exact if_pos stops

theorem converse_next (goesOn : halted (answer call state).1 = false) :
    converse halted answer (call :: calls) state =
      ((answer call state).1 ::
          (converse halted answer calls (answer call state).2).1,
        (converse halted answer calls (answer call state).2).2) := by
  rw [converse]
  exact if_neg (Bool.eq_false_iff.mp goesOn)

/-- What every answer keeps, a conversation keeps. -/
theorem converse_keeps {keeps : σ → Prop}
    (step : ∀ call state, keeps state → keeps (answer call state).2)
    (calls : List Call) (holds : keeps state) :
    keeps (converse halted answer calls state).2 := by
  induction calls generalizing state with
  | nil => exact holds
  | cons call rest ih =>
      have after := step call state holds
      cases stops : halted (answer call state).1 with
      | true =>
          rw [converse_halted stops]
          exact after
      | false =>
          rw [converse_next stops]
          exact ih after

end Converse

/-! ### A watched machine -/

/-- When a watch fires, and what it remembers of a call. -/
structure Watch (Call Answer τ γ : Type) where
  fires : γ → Call → τ → Bool
  next : γ → Call → Answer → γ

/-- The watch fires in no call of the plain conversation. -/
def Watch.undisturbed (watch : Watch Call Answer τ γ)
    (halted : Answer → Bool) (plain : Call → τ → Answer × τ) :
    List Call → γ → τ → Bool
  | [], _, _ => true
  | call :: rest, memory, state =>
      let result := plain call state
      !watch.fires memory call state &&
        (halted result.1 ||
          watch.undisturbed halted plain rest
            (watch.next memory call result.1) result.2)

/-- The watched machine follows the plain one until the watch fires, and is
spoiled from then on. -/
structure Watches (watch : Watch Call Answer τ γ)
    (watched : Call → σ → Answer × σ) (plain : Call → τ → Answer × τ)
    (related : γ → σ → τ → Prop) (spoiled : σ → Prop) : Prop where
  clean : ∀ memory state other, related memory state other → ¬spoiled state
  quiet : ∀ memory call state other, related memory state other →
    watch.fires memory call other = false →
      (watched call state).1 = (plain call other).1 ∧
        related (watch.next memory call (plain call other).1)
          (watched call state).2 (plain call other).2
  loud : ∀ memory call state other, related memory state other →
    watch.fires memory call other = true → spoiled (watched call state).2
  stays : ∀ call state, spoiled state → spoiled (watched call state).2

section Watched

variable {watch : Watch Call Answer τ γ} {halted : Answer → Bool}
  {watched : Call → σ → Answer × σ} {plain : Call → τ → Answer × τ}
  {related : γ → σ → τ → Prop} {spoiled : σ → Prop}
  {memory : γ} {state : σ} {other : τ}

theorem undisturbed_cons {call : Call} {calls : List Call} :
    watch.undisturbed halted plain (call :: calls) memory other = true ↔
      watch.fires memory call other = false ∧
        (halted (plain call other).1 = true ∨
          watch.undisturbed halted plain calls
            (watch.next memory call (plain call other).1)
            (plain call other).2 = true) := by
  rw [Watch.undisturbed, Bool.and_eq_true, Bool.not_eq_true', Bool.or_eq_true]

/-- An undisturbed conversation is the plain one. -/
theorem Watches.alike (watches : Watches watch watched plain related spoiled)
    {calls : List Call} (holds : related memory state other)
    (silent : watch.undisturbed halted plain calls memory other = true) :
    (converse halted watched calls state).1 =
        (converse halted plain calls other).1 ∧
      ∃ last, related last (converse halted watched calls state).2
        (converse halted plain calls other).2 := by
  induction calls generalizing memory state other with
  | nil => exact ⟨rfl, memory, holds⟩
  | cons call rest ih =>
      obtain ⟨unfired, later⟩ := undisturbed_cons.mp silent
      obtain ⟨same, after⟩ := watches.quiet memory call state other holds unfired
      cases stops : halted (plain call other).1 with
      | true =>
          rw [converse_halted stops, converse_halted (same ▸ stops), same]
          exact ⟨rfl, _, after⟩
      | false =>
          rw [stops] at later
          have goesOn := later.resolve_left Bool.false_ne_true
          obtain ⟨answers, last, ends⟩ := ih after goesOn
          rw [converse_next stops, converse_next (same ▸ stops), same, answers]
          exact ⟨rfl, last, ends⟩

/-- A disturbed conversation ends spoiled. -/
theorem Watches.disturbed
    (watches : Watches watch watched plain related spoiled)
    {calls : List Call} (holds : related memory state other)
    (heard : watch.undisturbed halted plain calls memory other = false) :
    spoiled (converse halted watched calls state).2 := by
  induction calls generalizing memory state other with
  | nil => cases heard
  | cons call rest ih =>
      cases fires : watch.fires memory call other with
      | true =>
          have spoils := watches.loud memory call state other holds fires
          cases stops : halted (watched call state).1 with
          | true =>
              rw [converse_halted stops]
              exact spoils
          | false =>
              rw [converse_next stops]
              exact converse_keeps watches.stays rest spoils
      | false =>
          obtain ⟨same, after⟩ :=
            watches.quiet memory call state other holds fires
          rw [Watch.undisturbed, fires, Bool.not_false, Bool.true_and,
            Bool.or_eq_false_iff] at heard
          obtain ⟨goesOn, later⟩ := heard
          rw [converse_next (same ▸ goesOn)]
          exact ih after later

/-- The plain conversation tells whether the watched one ends spoiled. -/
theorem Watches.spoiled_iff
    (watches : Watches watch watched plain related spoiled)
    {calls : List Call} (holds : related memory state other) :
    ¬spoiled (converse halted watched calls state).2 ↔
      watch.undisturbed halted plain calls memory other = true := by
  constructor
  · intro unspoiled
    by_contra heard
    exact unspoiled
      (watches.disturbed holds (Bool.eq_false_iff.mpr heard))
  · intro silent
    obtain ⟨_, last, ends⟩ := watches.alike holds silent
    exact watches.clean last _ _ ends

end Watched

end Foundation.Dialogue
