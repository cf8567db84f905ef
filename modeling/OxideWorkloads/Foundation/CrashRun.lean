/-
Programs over a durable state that return, fail or are killed.

A program maps the state before it to an outcome and the state it leaves.  A
failure can be caught; a kill cannot, and leaves the state exactly as the last
completed effect left it.  The weakest precondition of a program takes one
postcondition for each of the three outcomes.

Nothing here mentions a particular state, effect or error.
-/

import Mathlib.Data.List.Basic

namespace Foundation

/-- How a program ends. -/
inductive Outcome (ε α : Type) where
  | ok (value : α)
  | error (failure : ε)
  | killed
  deriving DecidableEq, Repr

/-- The program returned. -/
def Outcome.isOk {ε α : Type} : Outcome ε α → Bool
  | .ok _ => true
  | _ => false

/-- A program over a state `σ` with errors `ε`. -/
def CrashRun (σ ε α : Type) : Type := σ → Outcome ε α × σ

/-- One assertion for each way a program can end. -/
structure Post (σ ε α : Type) where
  ok : α → σ → Prop
  error : ε → σ → Prop
  killed : σ → Prop

namespace Post

/-- The postcondition at one concrete end of a program. -/
def Holds {σ ε α : Type} (post : Post σ ε α) : Outcome ε α × σ → Prop
  | (.ok value, state) => post.ok value state
  | (.error failure, state) => post.error failure state
  | (.killed, state) => post.killed state

/-- The same assertion about the state however the program ends. -/
def always {σ ε α : Type} (assertion : σ → Prop) : Post σ ε α :=
  { ok := fun _ state => assertion state
    error := fun _ state => assertion state
    killed := assertion }

end Post

namespace CrashRun

variable {σ ε α β : Type}

protected def pure (value : α) : CrashRun σ ε α :=
  fun state => (.ok value, state)

protected def bind (program : CrashRun σ ε α)
    (next : α → CrashRun σ ε β) : CrashRun σ ε β :=
  fun state =>
    match program state with
    | (.ok value, after) => next value after
    | (.error failure, after) => (.error failure, after)
    | (.killed, after) => (.killed, after)

instance : Monad (CrashRun σ ε) where
  pure := CrashRun.pure
  bind := CrashRun.bind

/-- Fail with an error, leaving the state unchanged. -/
def fail (failure : ε) : CrashRun σ ε α :=
  fun state => (.error failure, state)

/-- Be killed before any further effect. -/
def kill : CrashRun σ ε α :=
  fun state => (.killed, state)

/-- Read the state. -/
def state : CrashRun σ ε σ :=
  fun current => (.ok current, current)

/-- Replace the state. -/
def modify (update : σ → σ) : CrashRun σ ε Unit :=
  fun current => (.ok (), update current)

/-- Turn an error into a value.  A kill is not an error. -/
def attempt (program : CrashRun σ ε α) : CrashRun σ ε (Except ε α) :=
  fun current =>
    match program current with
    | (.ok value, after) => (.ok (.ok value), after)
    | (.error failure, after) => (.ok (.error failure), after)
    | (.killed, after) => (.killed, after)

/-- A value that may be an error, as a program. -/
def ofExcept : Except ε α → CrashRun σ ε α
  | .ok value => CrashRun.pure value
  | .error failure => fail failure

/-- Run a list of programs of one kind, left to right. -/
def forEach (program : α → CrashRun σ ε Unit) : List α → CrashRun σ ε Unit
  | [] => pure ()
  | value :: rest => do
      program value
      forEach program rest

/-! ### Weakest preconditions -/

/-- The program, started in `state`, ends in `post`. -/
def wp (program : CrashRun σ ε α) (post : Post σ ε α) (state : σ) : Prop :=
  post.Holds (program state)

theorem wp_mono {program : CrashRun σ ε α} {post weaker : Post σ ε α}
    {state : σ} (holds : wp program post state)
    (onOk : ∀ value after, post.ok value after → weaker.ok value after)
    (onError : ∀ failure after,
      post.error failure after → weaker.error failure after)
    (onKilled : ∀ after, post.killed after → weaker.killed after) :
    wp program weaker state := by
  unfold wp at holds ⊢
  cases ending : program state with
  | mk outcome after =>
      rw [ending] at holds
      cases outcome with
      | ok value => exact onOk value after holds
      | error failure => exact onError failure after holds
      | killed => exact onKilled after holds

/-- A known end of a program meets its postcondition. -/
theorem wp_ends {program : CrashRun σ ε α} {post : Post σ ε α}
    {state after : σ} {outcome : Outcome ε α}
    (holds : wp program post state)
    (ends : program state = (outcome, after)) :
    post.Holds (outcome, after) := by
  rwa [wp, ends] at holds

/-- A program that neither fails nor is killed returns. -/
theorem returns_of_wp {program : CrashRun σ ε α} {state : σ}
    {reached : α → σ → Prop}
    (holds : wp program
      { ok := reached
        error := fun _ _ => False
        killed := fun _ => False } state) :
    ∃ value after, program state = (.ok value, after) ∧
      reached value after := by
  unfold wp at holds
  cases ending : program state with
  | mk outcome after =>
      rw [ending] at holds
      cases outcome with
      | ok value => exact ⟨value, after, rfl, holds⟩
      | error failure => exact holds.elim
      | killed => exact holds.elim

/-- A postcondition with one end only is that end. -/
theorem ends_of_wp {program : CrashRun σ ε α} {state after : σ} {value : α}
    (holds : wp program
      { ok := fun other last => other = value ∧ last = after
        error := fun _ _ => False
        killed := fun _ => False } state) :
    program state = (.ok value, after) := by
  obtain ⟨other, last, ends, sameValue, sameState⟩ := returns_of_wp holds
  rw [ends, sameValue, sameState]

theorem wp_and {program : CrashRun σ ε α} {left right : Post σ ε α}
    {state : σ} (holdsLeft : wp program left state)
    (holdsRight : wp program right state) :
    wp program
      { ok := fun value after => left.ok value after ∧ right.ok value after
        error := fun failure after =>
          left.error failure after ∧ right.error failure after
        killed := fun after => left.killed after ∧ right.killed after }
      state := by
  unfold wp at holdsLeft holdsRight ⊢
  cases ending : program state with
  | mk outcome after =>
      rw [ending] at holdsLeft holdsRight
      cases outcome <;> exact ⟨holdsLeft, holdsRight⟩

@[simp] theorem wp_pure (value : α) (post : Post σ ε α) (state : σ) :
    wp (pure value : CrashRun σ ε α) post state ↔ post.ok value state :=
  Iff.rfl

@[simp] theorem wp_fail (failure : ε) (post : Post σ ε α) (state : σ) :
    wp (fail failure : CrashRun σ ε α) post state ↔
      post.error failure state :=
  Iff.rfl

@[simp] theorem wp_kill (post : Post σ ε α) (state : σ) :
    wp (kill : CrashRun σ ε α) post state ↔ post.killed state :=
  Iff.rfl

@[simp] theorem wp_state (post : Post σ ε σ) (current : σ) :
    wp (CrashRun.state : CrashRun σ ε σ) post current ↔
      post.ok current current :=
  Iff.rfl

@[simp] theorem wp_modify (update : σ → σ) (post : Post σ ε Unit)
    (current : σ) :
    wp (modify update : CrashRun σ ε Unit) post current ↔
      post.ok () (update current) :=
  Iff.rfl

@[simp] theorem wp_bind (program : CrashRun σ ε α)
    (next : α → CrashRun σ ε β) (post : Post σ ε β) (state : σ) :
    wp (program >>= next) post state ↔
      wp program
        { ok := fun value after => wp (next value) post after
          error := post.error
          killed := post.killed } state := by
  change post.Holds (CrashRun.bind program next state) ↔ _
  unfold CrashRun.bind wp
  cases program state with
  | mk outcome after => cases outcome <;> exact Iff.rfl

@[simp] theorem wp_attempt (program : CrashRun σ ε α)
    (post : Post σ ε (Except ε α)) (state : σ) :
    wp (attempt program) post state ↔
      wp program
        { ok := fun value after => post.ok (.ok value) after
          error := fun failure after => post.ok (.error failure) after
          killed := post.killed } state := by
  unfold wp attempt
  cases program state with
  | mk outcome after => cases outcome <;> exact Iff.rfl

theorem wp_ofExcept (result : Except ε α) (post : Post σ ε α) (state : σ) :
    wp (ofExcept result : CrashRun σ ε α) post state ↔
      match result with
      | .ok value => post.ok value state
      | .error failure => post.error failure state := by
  cases result <;> exact Iff.rfl

/-! ### Ends of composed programs -/

theorem bind_ok {program : CrashRun σ ε α} {state after : σ} {value : α}
    (ends : program state = (.ok value, after))
    (next : α → CrashRun σ ε β) :
    (program >>= next) state = next value after := by
  change CrashRun.bind program next state = _
  rw [CrashRun.bind, ends]

/-- Programs whose first parts end alike, and that go on alike after a
return, end alike. -/
theorem bind_congr {program other : CrashRun σ ε α}
    {first second : α → CrashRun σ ε β} {state : σ}
    (begins : program state = other state)
    (same : ∀ value after, other state = (.ok value, after) →
      first value after = second value after) :
    (program >>= first) state = (other >>= second) state := by
  change CrashRun.bind program first state =
    CrashRun.bind other second state
  unfold CrashRun.bind
  rw [begins]
  cases ending : other state with
  | mk outcome after =>
      cases outcome with
      | ok value => exact same value after ending
      | error failure => rfl
      | killed => rfl

/-- Programs that leave the same state after every return of the first part
leave the same state. -/
theorem bind_effects {γ : Type} {program : CrashRun σ ε α}
    {first : α → CrashRun σ ε β} {second : α → CrashRun σ ε γ} {state : σ}
    (same : ∀ value after, program state = (.ok value, after) →
      (first value after).2 = (second value after).2) :
    ((program >>= first) state).2 = ((program >>= second) state).2 := by
  change (CrashRun.bind program first state).2 =
    (CrashRun.bind program second state).2
  unfold CrashRun.bind
  cases ending : program state with
  | mk outcome after =>
      cases outcome with
      | ok value => exact same value after ending
      | error failure => rfl
      | killed => rfl

theorem bind_bind {γ : Type} (program : CrashRun σ ε α)
    (first : α → CrashRun σ ε β) (second : β → CrashRun σ ε γ) (state : σ) :
    ((program >>= first) >>= second) state =
      (program >>= fun value => first value >>= second) state := by
  change CrashRun.bind (CrashRun.bind program first) second state =
    CrashRun.bind program
      (fun value => CrashRun.bind (first value) second) state
  unfold CrashRun.bind
  cases program state with
  | mk outcome after => cases outcome <;> rfl

theorem bind_returned {program : CrashRun σ ε α}
    {next : α → CrashRun σ ε β} {state last : σ} {result : β} :
    (program >>= next) state = (.ok result, last) ↔
      ∃ value after, program state = (.ok value, after) ∧
        next value after = (.ok result, last) := by
  change CrashRun.bind program next state = _ ↔ _
  unfold CrashRun.bind
  cases ending : program state with
  | mk outcome after => cases outcome <;> simp

theorem ofExcept_returned {result : Except ε α} {state last : σ}
    {value : α} :
    (ofExcept result : CrashRun σ ε α) state = (.ok value, last) ↔
      result = .ok value ∧ last = state := by
  cases result with
  | ok other =>
      change (Outcome.ok other, state) = _ ↔ _
      simp [eq_comm]
  | error failure =>
      change (Outcome.error failure, state) = _ ↔ _
      simp

theorem pure_returned {value result : α} {state last : σ} :
    (pure value : CrashRun σ ε α) state = (.ok result, last) ↔
      result = value ∧ last = state := by
  change (Outcome.ok value, state) = _ ↔ _
  simp [eq_comm]

/-- The program leaves every state as it is, however it ends. -/
def Still (program : CrashRun σ ε α) : Prop :=
  ∀ state, (program state).2 = state

theorem still_pure (value : α) : Still (pure value : CrashRun σ ε α) :=
  fun _ => rfl

theorem still_ofExcept (result : Except ε α) :
    Still (ofExcept result : CrashRun σ ε α) := by
  intro state
  cases result <;> rfl

/-- Behind a first part that is still, only the rest changes anything. -/
theorem still_bind {program : CrashRun σ ε α} {next : α → CrashRun σ ε β}
    (first : Still program) (rest : ∀ value, Still (next value)) :
    Still (program >>= next) := by
  intro state
  have begins := first state
  change (CrashRun.bind program next state).2 = state
  unfold CrashRun.bind
  cases ending : program state with
  | mk outcome after =>
      rw [ending] at begins
      simp only at begins
      subst begins
      cases outcome with
      | ok value => exact rest value after
      | error failure => rfl
      | killed => rfl

theorem bind_still {program : CrashRun σ ε α} {next : α → CrashRun σ ε β}
    (rest : ∀ value, Still (next value)) (state : σ) :
    ((program >>= next) state).2 = (program state).2 := by
  change (CrashRun.bind program next state).2 = (program state).2
  unfold CrashRun.bind
  cases ending : program state with
  | mk outcome after =>
      cases outcome with
      | ok value => exact rest value after
      | error failure => rfl
      | killed => rfl

/-! ### Triples

A triple has one postcondition for a normal return and a second, usually
weaker one for every state in which the program can fail or be killed. -/

def Triple (pre : σ → Prop) (program : CrashRun σ ε α)
    (post : α → σ → Prop) (broken : σ → Prop) : Prop :=
  ∀ state, pre state →
    wp program
      { ok := post
        error := fun _ after => broken after
        killed := broken } state

section Triple

variable {pre broken : σ → Prop} {post : α → σ → Prop}

theorem triple_pure {value : α} (returns : ∀ state, pre state →
    post value state) :
    Triple pre (pure value : CrashRun σ ε α) post broken :=
  returns

theorem triple_fail (stops : ∀ state, pre state → broken state)
    (failure : ε) :
    Triple pre (fail failure : CrashRun σ ε α) post broken :=
  stops

theorem triple_bind {program : CrashRun σ ε α} {next : α → CrashRun σ ε β}
    {last : β → σ → Prop} (first : Triple pre program post broken)
    (second : ∀ value, Triple (post value) (next value) last broken) :
    Triple pre (program >>= next) last broken := by
  intro current holds
  rw [wp_bind]
  exact wp_mono (first current holds)
    (fun value after reached => second value after reached)
    (fun _ _ stopped => stopped) (fun _ stopped => stopped)

/-- Sequencing with the assertion in the middle written out. -/
theorem triple_seq (middle : α → σ → Prop) {program : CrashRun σ ε α}
    {next : α → CrashRun σ ε β} {last : β → σ → Prop}
    (first : Triple pre program middle broken)
    (second : ∀ value, Triple (middle value) (next value) last broken) :
    Triple pre (program >>= next) last broken :=
  triple_bind first second

theorem triple_consequence {program : CrashRun σ ε α}
    {stronger : σ → Prop} {weaker : α → σ → Prop} {stops : σ → Prop}
    (holds : Triple pre program post broken)
    (before : ∀ state, stronger state → pre state)
    (after : ∀ value state, post value state → weaker value state)
    (halted : ∀ state, broken state → stops state) :
    Triple stronger program weaker stops := by
  intro current holdsBefore
  exact wp_mono (holds current (before current holdsBefore)) after
    (fun _ => halted) halted

theorem triple_ofExcept {result : Except ε α}
    (onOk : ∀ value, result = .ok value → ∀ state, pre state →
      post value state)
    (onError : ∀ failure, result = .error failure → ∀ state, pre state →
      broken state) :
    Triple pre (ofExcept result : CrashRun σ ε α) post broken := by
  cases result with
  | ok value => exact onOk value rfl
  | error failure => exact onError failure rfl

theorem triple_state {read : σ → σ → Prop}
    (reads : ∀ state, pre state → read state state) :
    Triple pre (CrashRun.state : CrashRun σ ε σ) read broken :=
  reads

theorem triple_modify {update : σ → σ} {changed : σ → Prop}
    (updates : ∀ state, pre state → changed (update state)) :
    Triple pre (modify update : CrashRun σ ε Unit) (fun _ => changed)
      broken :=
  updates

theorem triple_ite {condition : Prop} [Decidable condition]
    {yes no : CrashRun σ ε α}
    (onYes : condition → Triple pre yes post broken)
    (onNo : ¬condition → Triple pre no post broken) :
    Triple pre (if condition then yes else no) post broken := by
  by_cases decided : condition
  · rw [if_pos decided]
    exact onYes decided
  · rw [if_neg decided]
    exact onNo decided

end Triple

end CrashRun

end Foundation
