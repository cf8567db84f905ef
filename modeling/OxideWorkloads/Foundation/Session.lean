/-
Programs that work on a shared store by queries and atomic transactions, and
their races.

A session returns, fails, waits for ever, asks for the store or submits a
transaction.  A transaction is applied as a whole or refused, and a refusal
fails the session.  Every step of a session is one step of the store, so a
session that fails from outside or is killed is one that takes no further
step.
-/

import Mathlib.Data.List.Basic

namespace Foundation

/-- A program over a store `σ` with transactions `τ` and errors `ε`. -/
inductive Session (σ τ ε α : Type) where
  | done (value : α)
  | failed (error : ε)
  | pending
  | ask (next : σ → Session σ τ ε α)
  | submit (transaction : τ) (next : Session σ τ ε α)

namespace Session

variable {σ τ ε α β γ : Type}

protected def bind :
    Session σ τ ε α → (α → Session σ τ ε β) → Session σ τ ε β
  | .done value, continuation => continuation value
  | .failed error, _ => .failed error
  | .pending, _ => .pending
  | .ask next, continuation =>
      .ask (fun store => (next store).bind continuation)
  | .submit transaction next, continuation =>
      .submit transaction (next.bind continuation)

instance : Monad (Session σ τ ε) where
  pure := .done
  bind := Session.bind

/-- The store at this moment. -/
def snapshot : Session σ τ ε σ := .ask .done

/-- A value that may be an error, as a session. -/
def ofExcept : Except ε α → Session σ τ ε α
  | .ok value => .done value
  | .error error => .failed error

@[simp] theorem done_bind (value : α) (next : α → Session σ τ ε β) :
    (.done value : Session σ τ ε α) >>= next = next value :=
  rfl

@[simp] theorem pure_bind (value : α) (next : α → Session σ τ ε β) :
    (pure value : Session σ τ ε α) >>= next = next value :=
  rfl

@[simp] theorem failed_bind (error : ε) (next : α → Session σ τ ε β) :
    (.failed error : Session σ τ ε α) >>= next = .failed error :=
  rfl

@[simp] theorem pending_bind (next : α → Session σ τ ε β) :
    (.pending : Session σ τ ε α) >>= next = .pending :=
  rfl

@[simp] theorem ask_bind (answer : σ → Session σ τ ε α)
    (next : α → Session σ τ ε β) :
    .ask answer >>= next = .ask (fun store => answer store >>= next) :=
  rfl

@[simp] theorem submit_bind (transaction : τ) (rest : Session σ τ ε α)
    (next : α → Session σ τ ε β) :
    .submit transaction rest >>= next = .submit transaction (rest >>= next) :=
  rfl

theorem bind_pure (session : Session σ τ ε α) :
    session >>= (fun value => pure value) = session := by
  induction session with
  | done value => rfl
  | failed error => rfl
  | pending => rfl
  | ask next ih =>
      rw [ask_bind]
      apply congrArg
      funext store
      exact ih store
  | submit transaction next ih =>
      rw [submit_bind, ih]

theorem bind_assoc (session : Session σ τ ε α)
    (second : α → Session σ τ ε β) (third : β → Session σ τ ε γ) :
    session >>= second >>= third =
      session >>= (fun value => second value >>= third) := by
  induction session with
  | done value => rfl
  | failed error => rfl
  | pending => rfl
  | ask next ih =>
      rw [ask_bind, ask_bind, ask_bind]
      apply congrArg
      funext store
      exact ih store
  | submit transaction next ih =>
      rw [submit_bind, submit_bind, submit_bind, ih]

/-- Transactions one after another, and then a session. -/
def submitAll : List τ → Session σ τ ε α → Session σ τ ε α
  | [], session => session
  | transaction :: rest, session => .submit transaction (submitAll rest session)

theorem submitAll_append (first second : List τ) (session : Session σ τ ε α) :
    submitAll (first ++ second) session =
      submitAll first (submitAll second session) := by
  induction first with
  | nil => rfl
  | cons transaction rest ih =>
      rw [List.cons_append, submitAll, submitAll, ih]

theorem submitAll_bind (transactions : List τ) (session : Session σ τ ε α)
    (next : α → Session σ τ ε β) :
    submitAll transactions session >>= next =
      submitAll transactions (session >>= next) := by
  induction transactions with
  | nil => rfl
  | cons transaction rest ih =>
      rw [submitAll, submitAll, submit_bind, ih]

/-- What a session goes on with once its first questions are answered. -/
def answered (store : σ) : Session σ τ ε α → Session σ τ ε α
  | .ask next => (next store).answered store
  | .done value => .done value
  | .failed error => .failed error
  | .pending => .pending
  | .submit transaction next => .submit transaction next

theorem answered_submitAll {store : σ} {session : Session σ τ ε α}
    (settled : session.answered store = session) (transactions : List τ) :
    (submitAll transactions session).answered store =
      submitAll transactions session := by
  cases transactions with
  | nil => exact settled
  | cons transaction rest => rfl

/-- The transactions of a session that last if its questions are answered by
one store and the transaction at a position is refused. -/
def durable (store : σ) : Option Nat → Session σ τ ε α → List τ
  | refused, .ask next => durable store refused (next store)
  | none, .submit transaction next => transaction :: durable store none next
  | some 0, .submit _ _ => []
  | some (position + 1), .submit transaction next =>
      transaction :: durable store (some position) next
  | _, .done _ => []
  | _, .failed _ => []
  | _, .pending => []

theorem durable_answered (store : σ) (refused : Option Nat)
    (session : Session σ τ ε α) :
    (session.answered store).durable store refused =
      session.durable store refused := by
  induction session with
  | done value => rfl
  | failed error => rfl
  | pending => rfl
  | ask next ih =>
      rw [answered, durable]
      exact ih store
  | submit transaction next => rfl

/-- All of the transactions last, or those before the refused one. -/
theorem durable_submitAll (store : σ) (refused : Option Nat)
    (transactions : List τ) (value : α) :
    (submitAll transactions (.done value : Session σ τ ε α)).durable store
        refused =
      match refused with
      | none => transactions
      | some position => transactions.take position := by
  induction transactions generalizing refused with
  | nil =>
      cases refused with
      | none => rfl
      | some position => exact List.take_nil.symm
  | cons transaction rest ih =>
      cases refused with
      | none => exact congrArg (List.cons transaction) (ih none)
      | some position =>
          cases position with
          | zero => rfl
          | succ position =>
              exact congrArg (List.cons transaction) (ih (some position))

end Session

/-! ### Steps -/

/-- The store, and the transactions it was given so far. -/
structure Shared (σ τ : Type) where
  store : σ
  log : List τ

section Steps

variable {σ τ ε α : Type} (apply : τ → σ → Except ε σ)
  (starts : Session σ τ ε α → Prop) (initial : Shared σ τ)

/-- One step of a session on the shared store. -/
inductive Session.Step :
    Session σ τ ε α → Shared σ τ → Session σ τ ε α → Shared σ τ → Prop where
  | ask (next : σ → Session σ τ ε α) (shared : Shared σ τ) :
      Session.Step (.ask next) shared (next shared.store) shared
  | commit (next : Session σ τ ε α) {transaction : τ} {shared : Shared σ τ}
      {after : σ} (applied : apply transaction shared.store = .ok after) :
      Session.Step (.submit transaction next) shared next
        { store := after, log := shared.log ++ [transaction] }
  | abort (next : Session σ τ ε α) {transaction : τ} {shared : Shared σ τ}
      {error : ε} (refused : apply transaction shared.store = .error error) :
      Session.Step (.submit transaction next) shared (.failed error) shared

/-- The first steps of a session that runs alone, any number of them. -/
inductive Session.Walk (session : Session σ τ ε α) (before : Shared σ τ) :
    Session σ τ ε α → Shared σ τ → Prop where
  | start : Session.Walk session before session before
  | next {middle last : Session σ τ ε α} {between after : Shared σ τ}
      (walked : Session.Walk session before middle between)
      (step : Session.Step apply middle between last after) :
      Session.Walk session before last after

/-- Sessions one after another, each of them left after any of its steps. -/
inductive History : Shared σ τ → Prop where
  | fresh : History initial
  | invoke {session last : Session σ τ ε α} {shared after : Shared σ τ}
      (earlier : History shared) (allowed : starts session)
      (walked : Session.Walk apply session shared last after) : History after

/-- Sessions started at any moment, with their steps in any order. -/
inductive Race : List (Session σ τ ε α) → Shared σ τ → Prop where
  | nobody : Race [] initial
  | start {sessions : List (Session σ τ ε α)} {shared : Shared σ τ}
      {session : Session σ τ ε α} (race : Race sessions shared)
      (allowed : starts session) : Race (sessions ++ [session]) shared
  | step {sessions : List (Session σ τ ε α)} {shared after : Shared σ τ}
      {position : Nat} {session next : Session σ τ ε α}
      (race : Race sessions shared)
      (found : sessions[position]? = some session)
      (step : Session.Step apply session shared next after) :
      Race (sessions.set position next) after

end Steps

variable {σ τ ε α : Type} {apply : τ → σ → Except ε σ}
  {starts : Session σ τ ε α → Prop} {initial : Shared σ τ}

/-- What holds of the store and of each session, whatever the order: what a
step keeps, for the session that takes it and for the others. -/
theorem Race.holds {stored : Shared σ τ → Prop}
    {running : Shared σ τ → Session σ τ ε α → Prop}
    (begins : stored initial)
    (starting : ∀ shared session, stored shared → starts session →
      running shared session)
    (stepping : ∀ session shared next after, stored shared →
      running shared session → Session.Step apply session shared next after →
        stored after ∧ running after next)
    (others : ∀ session shared next after other, stored shared →
      running shared session → Session.Step apply session shared next after →
        running shared other → running after other)
    {sessions : List (Session σ τ ε α)} {shared : Shared σ τ}
    (race : Race apply starts initial sessions shared) :
    stored shared ∧ ∀ session ∈ sessions, running shared session := by
  induction race with
  | nobody =>
      refine ⟨begins, ?_⟩
      intro session member
      cases member
  | start race allowed ih =>
      refine ⟨ih.1, ?_⟩
      intro session member
      rcases List.mem_append.mp member with before | new
      · exact ih.2 session before
      · rw [List.mem_singleton.mp new]
        exact starting _ _ ih.1 allowed
  | step race found step ih =>
      have mover := ih.2 _ (List.mem_of_getElem? found)
      have moved := stepping _ _ _ _ ih.1 mover step
      refine ⟨moved.1, ?_⟩
      intro session member
      rcases List.mem_or_eq_of_mem_set member with before | same
      · exact others _ _ _ _ _ ih.1 mover step (ih.2 session before)
      · rw [same]
        exact moved.2

/-- A session that runs alone for a while is a race in which only the last
session moves. -/
theorem Race.walk {sessions : List (Session σ τ ε α)}
    {shared after : Shared σ τ} {session last : Session σ τ ε α}
    (race : Race apply starts initial sessions shared)
    (allowed : starts session)
    (walked : Session.Walk apply session shared last after) :
    Race apply starts initial (sessions ++ [last]) after := by
  induction walked with
  | start => exact Race.start race allowed
  | next walked step ih =>
      have found : ∀ middle : Session σ τ ε α,
          (sessions ++ [middle])[sessions.length]? = some middle := by
        intro middle
        rw [List.getElem?_append_right (Nat.le_refl _), Nat.sub_self]
        rfl
      have moved := Race.step ih (found _) step
      rw [List.set_append_right _ _ (Nat.le_refl _), Nat.sub_self] at moved
      exact moved

theorem History.race {shared : Shared σ τ}
    (history : History apply starts initial shared) :
    ∃ sessions, Race apply starts initial sessions shared := by
  induction history with
  | fresh => exact ⟨[], Race.nobody⟩
  | invoke earlier allowed walked ih =>
      obtain ⟨sessions, race⟩ := ih
      exact ⟨_, race.walk allowed walked⟩

/-- A session that is not disturbed gets its first questions answered by one
store. -/
theorem Session.walk_answered (session : Session σ τ ε α)
    (shared : Shared σ τ) {first : Session σ τ ε α}
    (walked : Session.Walk apply first shared session shared) :
    Session.Walk apply first shared (session.answered shared.store)
      shared := by
  induction session with
  | done value => exact walked
  | failed error => exact walked
  | pending => exact walked
  | ask next ih =>
      apply ih shared.store
      exact Session.Walk.next walked (Session.Step.ask next shared)
  | submit transaction next => exact walked

end Foundation
