/-
Programs that read a table under a lock of a transaction of their own, while
other sessions write to the table.

The lock is granted when no other session has an open transaction that wrote,
and while it is held no other session writes.  A statement reads what is
committed when it starts.  The transaction of the lock may be ended from
outside; it can then no longer be ended by its program.  What a program asks
from elsewhere is answered in any way, and it may fail at any step.
-/

import OxideWorkloads.Foundation.Session

namespace Foundation

/-- A program over a table with contents `κ` and rows `ρ`, and over a store
`σ` with transactions `τ` that is somewhere else. -/
inductive Guarded (κ ρ σ τ ε α : Type) where
  | done (value : α)
  | failed (error : ε)
  | pending
  | ask (next : σ → Guarded κ ρ σ τ ε α)
  | submit (transaction : τ) (next : Guarded κ ρ σ τ ε α)
  | lock (next : Guarded κ ρ σ τ ε α)
  | read (query : κ → List ρ)
      (next : { rows : List ρ // ∃ content, query content = rows } →
        Guarded κ ρ σ τ ε α)
  | release (next : Guarded κ ρ σ τ ε α)

namespace Guarded

variable {κ ρ σ τ ε α β γ : Type}

protected def bind : Guarded κ ρ σ τ ε α →
    (α → Guarded κ ρ σ τ ε β) → Guarded κ ρ σ τ ε β
  | .done value, continuation => continuation value
  | .failed error, _ => .failed error
  | .pending, _ => .pending
  | .ask next, continuation =>
      .ask (fun store => (next store).bind continuation)
  | .submit transaction next, continuation =>
      .submit transaction (next.bind continuation)
  | .lock next, continuation => .lock (next.bind continuation)
  | .read query next, continuation =>
      .read query (fun rows => (next rows).bind continuation)
  | .release next, continuation => .release (next.bind continuation)

instance : Monad (Guarded κ ρ σ τ ε) where
  pure := .done
  bind := Guarded.bind

/-- Begin the transaction that holds the lock. -/
def begin : Guarded κ ρ σ τ ε Unit := .lock (.done ())

/-- The rows of a query on the table, at this moment. -/
def select (query : κ → List ρ) : Guarded κ ρ σ τ ε
    { rows : List ρ // ∃ content, query content = rows } :=
  .read query .done

/-- End the transaction that holds the lock. -/
def finish : Guarded κ ρ σ τ ε Unit := .release (.done ())

/-- A program that only works on the store. -/
def ofSession : Session σ τ ε α → Guarded κ ρ σ τ ε α
  | .done value => .done value
  | .failed error => .failed error
  | .pending => .pending
  | .ask next => .ask (fun store => ofSession (next store))
  | .submit transaction next => .submit transaction (ofSession next)

/-- A value that may be an error, as a program. -/
def ofExcept (outcome : Except ε α) : Guarded κ ρ σ τ ε α :=
  ofSession (Session.ofExcept outcome)

/-- The store at this moment. -/
def snapshot : Guarded κ ρ σ τ ε σ := .ask .done

@[simp] theorem done_bind (value : α) (next : α → Guarded κ ρ σ τ ε β) :
    (.done value : Guarded κ ρ σ τ ε α) >>= next = next value :=
  rfl

@[simp] theorem pure_bind (value : α) (next : α → Guarded κ ρ σ τ ε β) :
    (pure value : Guarded κ ρ σ τ ε α) >>= next = next value :=
  rfl

@[simp] theorem failed_bind (error : ε) (next : α → Guarded κ ρ σ τ ε β) :
    (.failed error : Guarded κ ρ σ τ ε α) >>= next = .failed error :=
  rfl

@[simp] theorem pending_bind (next : α → Guarded κ ρ σ τ ε β) :
    (.pending : Guarded κ ρ σ τ ε α) >>= next = .pending :=
  rfl

@[simp] theorem ask_bind (answer : σ → Guarded κ ρ σ τ ε α)
    (next : α → Guarded κ ρ σ τ ε β) :
    .ask answer >>= next = .ask (fun store => answer store >>= next) :=
  rfl

@[simp] theorem submit_bind (transaction : τ) (rest : Guarded κ ρ σ τ ε α)
    (next : α → Guarded κ ρ σ τ ε β) :
    .submit transaction rest >>= next = .submit transaction (rest >>= next) :=
  rfl

@[simp] theorem lock_bind (rest : Guarded κ ρ σ τ ε α)
    (next : α → Guarded κ ρ σ τ ε β) :
    .lock rest >>= next = .lock (rest >>= next) :=
  rfl

@[simp] theorem read_bind (query : κ → List ρ)
    (rest : { rows : List ρ // ∃ content, query content = rows } →
      Guarded κ ρ σ τ ε α)
    (next : α → Guarded κ ρ σ τ ε β) :
    .read query rest >>= next = .read query (fun rows => rest rows >>= next) :=
  rfl

@[simp] theorem release_bind (rest : Guarded κ ρ σ τ ε α)
    (next : α → Guarded κ ρ σ τ ε β) :
    .release rest >>= next = .release (rest >>= next) :=
  rfl

theorem bind_assoc (program : Guarded κ ρ σ τ ε α)
    (second : α → Guarded κ ρ σ τ ε β) (third : β → Guarded κ ρ σ τ ε γ) :
    program >>= second >>= third =
      program >>= (fun value => second value >>= third) := by
  induction program with
  | done value => rfl
  | failed error => rfl
  | pending => rfl
  | ask next ih => exact congrArg Guarded.ask (funext ih)
  | submit transaction next ih =>
      exact congrArg (Guarded.submit transaction) ih
  | lock next ih => exact congrArg Guarded.lock ih
  | read query next ih => exact congrArg (Guarded.read query) (funext ih)
  | release next ih => exact congrArg Guarded.release ih

/-! ### Where a program reads -/

/-- The program neither takes the lock nor ends it. -/
def ReadsOnly : Guarded κ ρ σ τ ε α → Prop
  | .done _ => True
  | .failed _ => True
  | .pending => True
  | .ask next => ∀ store, (next store).ReadsOnly
  | .submit _ next => next.ReadsOnly
  | .lock _ => False
  | .read _ next => ∀ rows, (next rows).ReadsOnly
  | .release _ => False

/-- The program has given the lock back: it does not read any more. -/
def Outside : Guarded κ ρ σ τ ε α → Prop
  | .done _ => True
  | .failed _ => True
  | .pending => True
  | .ask next => ∀ store, (next store).Outside
  | .submit _ next => next.Outside
  | .lock _ => False
  | .read _ _ => False
  | .release _ => False

/-- The program holds the lock, and gives it back before it returns. -/
def Inside : Guarded κ ρ σ τ ε α → Prop
  | .done _ => False
  | .failed _ => True
  | .pending => True
  | .ask next => ∀ store, (next store).Inside
  | .submit _ next => next.Inside
  | .lock _ => False
  | .read _ next => ∀ rows, (next rows).Inside
  | .release next => next.Outside

/-- The program takes the lock before it reads or returns. -/
def Before : Guarded κ ρ σ τ ε α → Prop
  | .done _ => False
  | .failed _ => True
  | .pending => True
  | .ask next => ∀ store, (next store).Before
  | .submit _ next => next.Before
  | .lock next => next.Inside
  | .read _ _ => False
  | .release _ => False

theorem ofSession_readsOnly (session : Session σ τ ε α) :
    (ofSession session : Guarded κ ρ σ τ ε α).ReadsOnly := by
  induction session with
  | done value => trivial
  | failed error => trivial
  | pending => trivial
  | ask next ih => exact ih
  | submit transaction next ih => exact ih

/-- A program that only reads stays inside if what follows it does. -/
theorem ReadsOnly.inside_bind {program : Guarded κ ρ σ τ ε α}
    (reads : program.ReadsOnly) {next : α → Guarded κ ρ σ τ ε β}
    (follows : ∀ value, (next value).Inside) :
    (program >>= next).Inside := by
  induction program with
  | done value => exact follows value
  | failed error => trivial
  | pending => trivial
  | ask answer ih =>
      intro store
      exact ih store (reads store)
  | submit transaction rest ih => exact ih reads
  | lock rest ih => exact reads.elim
  | read query rest ih =>
      intro rows
      exact ih rows (reads rows)
  | release rest ih => exact reads.elim

theorem ReadsOnly.bind {program : Guarded κ ρ σ τ ε α}
    (reads : program.ReadsOnly) {next : α → Guarded κ ρ σ τ ε β}
    (follows : ∀ value, (next value).ReadsOnly) :
    (program >>= next).ReadsOnly := by
  induction program with
  | done value => exact follows value
  | failed error => trivial
  | pending => trivial
  | ask answer ih =>
      intro store
      exact ih store (reads store)
  | submit transaction rest ih => exact ih reads
  | lock rest ih => exact reads.elim
  | read query rest ih =>
      intro rows
      exact ih rows (reads rows)
  | release rest ih => exact reads.elim

theorem readsOnly_select {query : κ → List ρ}
    {next : { rows : List ρ // ∃ content, query content = rows } →
      Guarded κ ρ σ τ ε β}
    (follows : ∀ rows, (next rows).ReadsOnly) :
    (select query >>= next).ReadsOnly :=
  follows

theorem before_ofExcept {outcome : Except ε α}
    {next : α → Guarded κ ρ σ τ ε β} (follows : ∀ value, (next value).Before) :
    (ofExcept outcome >>= next).Before := by
  cases outcome with
  | error error => trivial
  | ok value => exact follows value

theorem before_begin {next : Unit → Guarded κ ρ σ τ ε β}
    (follows : (next ()).Inside) : (begin >>= next).Before :=
  follows

theorem inside_select {query : κ → List ρ}
    {next : { rows : List ρ // ∃ content, query content = rows } →
      Guarded κ ρ σ τ ε β}
    (follows : ∀ rows, (next rows).Inside) : (select query >>= next).Inside :=
  follows

theorem inside_snapshot {next : σ → Guarded κ ρ σ τ ε β}
    (follows : ∀ store, (next store).Inside) : (snapshot >>= next).Inside :=
  follows

theorem inside_ofExcept {outcome : Except ε α}
    {next : α → Guarded κ ρ σ τ ε β} (follows : ∀ value, (next value).Inside) :
    (ofExcept outcome >>= next).Inside :=
  (ofSession_readsOnly _).inside_bind follows

theorem inside_finish {next : Unit → Guarded κ ρ σ τ ε β}
    (follows : (next ()).Outside) : (finish >>= next).Inside :=
  follows

theorem outside_ofExcept {outcome : Except ε α}
    {next : α → Guarded κ ρ σ τ ε β}
    (follows : ∀ value, (next value).Outside) :
    (ofExcept outcome >>= next).Outside := by
  cases outcome with
  | error error => trivial
  | ok value => exact follows value

/-! ### One content -/

/-- What a program did: a statement that got its rows, a question that got its
answer, or a transaction it submitted. -/
inductive Event (κ ρ σ τ : Type) where
  | read (query : κ → List ρ) (rows : List ρ)
  | answer (store : σ)
  | submitted (transaction : τ)

/-- The rows of the statements, one after another. -/
def rowsRead (trace : List (Event κ ρ σ τ)) : List (List ρ) :=
  trace.filterMap (fun event =>
    match event with
    | .read _ rows => some rows
    | .answer _ => none
    | .submitted _ => none)

theorem rowsRead_append (first second : List (Event κ ρ σ τ)) :
    rowsRead (first ++ second) = rowsRead first ++ rowsRead second :=
  List.filterMap_append

/-- A run to the returned value, on a table that does not change. -/
inductive Returns (content : κ) : Guarded κ ρ σ τ ε α →
    List (Event κ ρ σ τ) → α → Prop where
  | done (value : α) : Returns content (.done value) [] value
  | ask {next : σ → Guarded κ ρ σ τ ε α} {trace : List (Event κ ρ σ τ)}
      {value : α} (store : σ) (rest : Returns content (next store) trace value) :
      Returns content (.ask next) (.answer store :: trace) value
  | submit {next : Guarded κ ρ σ τ ε α} {trace : List (Event κ ρ σ τ)}
      {value : α} (transaction : τ) (rest : Returns content next trace value) :
      Returns content (.submit transaction next)
        (.submitted transaction :: trace) value
  | lock {next : Guarded κ ρ σ τ ε α} {trace : List (Event κ ρ σ τ)}
      {value : α} (rest : Returns content next trace value) :
      Returns content (.lock next) trace value
  | read {query : κ → List ρ}
      {next : { rows : List ρ // ∃ content, query content = rows } →
        Guarded κ ρ σ τ ε α}
      {trace : List (Event κ ρ σ τ)} {value : α}
      (rest : Returns content (next ⟨query content, content, rfl⟩) trace
        value) :
      Returns content (.read query next) (.read query (query content) :: trace)
        value
  | release {next : Guarded κ ρ σ τ ε α} {trace : List (Event κ ρ σ τ)}
      {value : α} (rest : Returns content next trace value) :
      Returns content (.release next) trace value

section Returns

variable {content : κ} {trace : List (Event κ ρ σ τ)}

theorem Returns.rows_eq {program : Guarded κ ρ σ τ ε α} {value : α}
    (returns : Returns content program trace value) {query : κ → List ρ}
    {rows : List ρ} (member : .read query rows ∈ trace) :
    rows = query content := by
  induction returns with
  | done value => cases member
  | ask store rest ih =>
      rcases List.mem_cons.mp member with same | later
      · cases same
      · exact ih later
  | submit transaction rest ih =>
      rcases List.mem_cons.mp member with same | later
      · cases same
      · exact ih later
  | lock rest ih => exact ih member
  | read rest ih =>
      rcases List.mem_cons.mp member with same | later
      · cases same
        rfl
      · exact ih later
  | release rest ih => exact ih member

/-- A run of two programs is a run of the first and one of the second. -/
theorem Returns.bind_inv {program : Guarded κ ρ σ τ ε α}
    {next : α → Guarded κ ρ σ τ ε β} {value : β}
    (returns : Returns content (program >>= next) trace value) :
    ∃ first second middle, trace = first ++ second ∧
      Returns content program first middle ∧
        Returns content (next middle) second value := by
  induction program generalizing trace with
  | done middle => exact ⟨[], trace, middle, rfl, .done middle, returns⟩
  | failed error => cases returns
  | pending => cases returns
  | ask answer ih =>
      cases returns with
      | ask store rest =>
          obtain ⟨first, second, middle, same, begins, ends⟩ := ih store rest
          exact ⟨_ :: first, second, middle, congrArg (List.cons _) same,
            .ask store begins, ends⟩
  | submit transaction rest ih =>
      cases returns with
      | submit _ rest =>
          obtain ⟨first, second, middle, same, begins, ends⟩ := ih rest
          exact ⟨_ :: first, second, middle, congrArg (List.cons _) same,
            .submit transaction begins, ends⟩
  | lock rest ih =>
      cases returns with
      | lock rest =>
          obtain ⟨first, second, middle, same, begins, ends⟩ := ih rest
          exact ⟨first, second, middle, same, .lock begins, ends⟩
  | read query rest ih =>
      cases returns with
      | read rest =>
          obtain ⟨first, second, middle, same, begins, ends⟩ := ih _ rest
          exact ⟨_ :: first, second, middle, congrArg (List.cons _) same,
            .read begins, ends⟩
  | release rest ih =>
      cases returns with
      | release rest =>
          obtain ⟨first, second, middle, same, begins, ends⟩ := ih rest
          exact ⟨first, second, middle, same, .release begins, ends⟩

theorem Returns.ofSession_rowsRead {session : Session σ τ ε α} {value : α}
    (returns : Returns content (ofSession session) trace value) :
    rowsRead trace = [] := by
  induction session generalizing trace with
  | done value =>
      cases returns
      rfl
  | failed error => cases returns
  | pending => cases returns
  | ask next ih =>
      cases returns with
      | ask store rest =>
          have nothing := ih store rest
          exact nothing
  | submit transaction next ih =>
      cases returns with
      | submit _ rest =>
          have nothing := ih rest
          exact nothing

theorem Returns.of_ofExcept {outcome : Except ε α}
    {next : α → Guarded κ ρ σ τ ε β} {value : β}
    (returns : Returns content (ofExcept outcome >>= next) trace value) :
    ∃ middle, outcome = .ok middle ∧
      Returns content (next middle) trace value := by
  cases outcome with
  | error error => cases returns
  | ok middle => exact ⟨middle, rfl, returns⟩

theorem Returns.of_begin {next : Unit → Guarded κ ρ σ τ ε β} {value : β}
    (returns : Returns content (begin >>= next) trace value) :
    Returns content (next ()) trace value := by
  cases returns with
  | lock rest => exact rest

theorem Returns.of_select {query : κ → List ρ}
    {next : { rows : List ρ // ∃ content, query content = rows } →
      Guarded κ ρ σ τ ε β} {value : β}
    (returns : Returns content (select query >>= next) trace value) :
    ∃ rest, trace = .read query (query content) :: rest ∧
      Returns content (next ⟨query content, content, rfl⟩) rest value := by
  cases returns with
  | read rest => exact ⟨_, rfl, rest⟩

theorem Returns.of_snapshot {next : σ → Guarded κ ρ σ τ ε β} {value : β}
    (returns : Returns content (snapshot >>= next) trace value) :
    ∃ store rest, trace = .answer store :: rest ∧
      Returns content (next store) rest value := by
  cases returns with
  | ask store rest => exact ⟨store, _, rfl, rest⟩

theorem Returns.of_finish {next : Unit → Guarded κ ρ σ τ ε β} {value : β}
    (returns : Returns content (finish >>= next) trace value) :
    Returns content (next ()) trace value := by
  cases returns with
  | release rest => exact rest

end Returns

/-- What a program is on the store when the table does not change. -/
def fixed (content : κ) : Guarded κ ρ σ τ ε α → Session σ τ ε α
  | .done value => .done value
  | .failed error => .failed error
  | .pending => .pending
  | .ask next => .ask (fun store => (next store).fixed content)
  | .submit transaction next => .submit transaction (next.fixed content)
  | .lock next => next.fixed content
  | .read query next => (next ⟨query content, content, rfl⟩).fixed content
  | .release next => next.fixed content

theorem fixed_bind (content : κ) (program : Guarded κ ρ σ τ ε α)
    (next : α → Guarded κ ρ σ τ ε β) :
    (program >>= next).fixed content =
      program.fixed content >>= fun value => (next value).fixed content := by
  induction program with
  | done value => rfl
  | failed error => rfl
  | pending => rfl
  | ask answer ih => exact congrArg Session.ask (funext ih)
  | submit transaction rest ih =>
      exact congrArg (Session.submit transaction) ih
  | lock rest ih => exact ih
  | read query rest ih => exact ih _
  | release rest ih => exact ih

theorem fixed_select (content : κ) (query : κ → List ρ)
    (next : { rows : List ρ // ∃ content, query content = rows } →
      Guarded κ ρ σ τ ε β) :
    (select query >>= next).fixed content =
      (next ⟨query content, content, rfl⟩).fixed content :=
  rfl

theorem fixed_ofExcept (content : κ) (outcome : Except ε α) :
    (ofExcept outcome : Guarded κ ρ σ τ ε α).fixed content =
      Session.ofExcept outcome := by
  cases outcome with
  | error error => rfl
  | ok value => rfl

theorem fixed_ofSession (content : κ) (session : Session σ τ ε α) :
    (ofSession session : Guarded κ ρ σ τ ε α).fixed content = session := by
  induction session with
  | done value => rfl
  | failed error => rfl
  | pending => rfl
  | ask next ih => exact congrArg Session.ask (funext ih)
  | submit transaction next ih =>
      exact congrArg (Session.submit transaction) ih

/-- Some answers make the session return this value. -/
inductive SessionReturns : Session σ τ ε α → α → Prop where
  | done (value : α) : SessionReturns (.done value) value
  | ask {next : σ → Session σ τ ε α} {value : α} (store : σ)
      (rest : SessionReturns (next store) value) :
      SessionReturns (.ask next) value
  | submit {next : Session σ τ ε α} {value : α} (transaction : τ)
      (rest : SessionReturns next value) :
      SessionReturns (.submit transaction next) value

theorem SessionReturns.bind {session : Session σ τ ε α}
    {next : α → Session σ τ ε β} {middle : α} {value : β}
    (begins : SessionReturns session middle)
    (ends : SessionReturns (next middle) value) :
    SessionReturns (session >>= next) value := by
  induction begins with
  | done middle => exact ends
  | ask store rest ih => exact .ask store (ih ends)
  | submit transaction rest ih => exact .submit transaction (ih ends)

theorem SessionReturns.submitAll {transactions : List τ}
    {session : Session σ τ ε α} {value : α}
    (returns : SessionReturns session value) :
    SessionReturns (Session.submitAll transactions session) value := by
  induction transactions with
  | nil => exact returns
  | cons transaction rest ih => exact .submit transaction ih

theorem Returns.fixed {content : κ} {program : Guarded κ ρ σ τ ε α}
    {trace : List (Event κ ρ σ τ)} {value : α}
    (returns : Returns content program trace value) :
    SessionReturns (program.fixed content) value := by
  induction returns with
  | done value => exact .done value
  | ask store rest ih => exact .ask store ih
  | submit transaction rest ih => exact .submit transaction ih
  | lock rest ih => exact ih
  | read rest ih => exact ih
  | release rest ih => exact ih

/-- On a table that does not change, a program returns what its session on the
store returns. -/
theorem returns_iff_fixed {content : κ} {program : Guarded κ ρ σ τ ε α}
    {value : α} :
    (∃ trace, Returns content program trace value) ↔
      SessionReturns (program.fixed content) value := by
  constructor
  · intro some_
    obtain ⟨trace, returns⟩ := some_
    exact returns.fixed
  · intro returns
    induction program with
    | done other =>
        cases returns
        exact ⟨[], .done _⟩
    | failed error => cases returns
    | pending => cases returns
    | ask next ih =>
        cases returns with
        | ask store rest =>
            obtain ⟨trace, onward⟩ := ih store rest
            exact ⟨_, .ask store onward⟩
    | submit transaction next ih =>
        cases returns with
        | submit _ rest =>
            obtain ⟨trace, onward⟩ := ih rest
            exact ⟨_, .submit transaction onward⟩
    | lock next ih =>
        obtain ⟨trace, onward⟩ := ih returns
        exact ⟨trace, .lock onward⟩
    | read query next ih =>
        obtain ⟨trace, onward⟩ := ih _ returns
        exact ⟨_, .read onward⟩
    | release next ih =>
        obtain ⟨trace, onward⟩ := ih returns
        exact ⟨trace, .release onward⟩

end Guarded

end Foundation
