/-
A guarded program among other sessions, with their steps in any order.

The other sessions come and go, take the same lock and write in transactions
of their own; what a transaction writes is committed as a whole.
-/

import OxideWorkloads.Foundation.Guarded

namespace Foundation

namespace Guarded

variable {κ ρ σ τ ε α : Type}

/-- Another session: without a transaction, with the lock, or with the change
that its open transaction makes. -/
inductive Other (κ : Type) where
  | idle
  | sharing
  | writing (change : κ → κ)

def Other.Writes : Other κ → Prop
  | .idle => False
  | .sharing => False
  | .writing _ => True

/-- The session after one more statement that writes. -/
def Other.write (change : κ → κ) : Other κ → Other κ
  | .idle => .writing change
  | .sharing => .writing change
  | .writing earlier => .writing (fun content => change (earlier content))

/-- The transaction that holds the lock: not begun or over, open, or ended
from outside. -/
inductive Guard where
  | free
  | held
  | lost
  deriving DecidableEq

/-- One step of another session. -/
inductive Disturbs (guard : Guard) (content : κ) (others : List (Other κ)) :
    κ → List (Other κ) → Prop where
  | join : Disturbs guard content others content (others ++ [.idle])
  | share {position : Nat} (found : others[position]? = some .idle)
      (quiet : ∀ other ∈ others, ¬other.Writes) :
      Disturbs guard content others content (others.set position .sharing)
  | write {position : Nat} {other : Other κ} (change : κ → κ)
      (found : others[position]? = some other) (unguarded : guard ≠ .held)
      (unshared : ∀ elsewhere, elsewhere ≠ position →
        others[elsewhere]? ≠ some .sharing) :
      Disturbs guard content others content
        (others.set position (other.write change))
  | commit {position : Nat} {change : κ → κ}
      (found : others[position]? = some (.writing change)) :
      Disturbs guard content others (change content)
        (others.set position .idle)
  | leave {position : Nat} {other : Other κ}
      (found : others[position]? = some other) :
      Disturbs guard content others content (others.set position .idle)

/-- The committed content of the table, the sessions and the program. -/
structure World (κ ρ σ τ ε α : Type) where
  content : κ
  others : List (Other κ)
  guard : Guard
  program : Guarded κ ρ σ τ ε α
  trace : List (Event κ ρ σ τ)

/-- One step of any session. -/
inductive Step (world : World κ ρ σ τ ε α) : World κ ρ σ τ ε α → Prop where
  | disturb {content : κ} {others : List (Other κ)}
      (disturbs :
        Disturbs world.guard world.content world.others content others) :
      Step world { world with content := content, others := others }
  | lose (held : world.guard = .held) :
      Step world { world with guard := .lost }
  | fail (error : ε) (running : ∀ value, world.program ≠ .done value) :
      Step world { world with program := .failed error }
  | lock {next : Guarded κ ρ σ τ ε α} (found : world.program = .lock next)
      (quiet : ∀ other ∈ world.others, ¬other.Writes) :
      Step world { world with guard := .held, program := next }
  | read {query : κ → List ρ}
      {next : { rows : List ρ // ∃ content, query content = rows } →
        Guarded κ ρ σ τ ε α}
      (found : world.program = .read query next) :
      Step world
        { world with
          program := next ⟨query world.content, world.content, rfl⟩
          trace := world.trace ++ [.read query (query world.content)] }
  | ask {next : σ → Guarded κ ρ σ τ ε α} (store : σ)
      (found : world.program = .ask next) :
      Step world
        { world with
          program := next store
          trace := world.trace ++ [.answer store] }
  | submit {transaction : τ} {next : Guarded κ ρ σ τ ε α}
      (found : world.program = .submit transaction next) :
      Step world
        { world with
          program := next
          trace := world.trace ++ [.submitted transaction] }
  | release {next : Guarded κ ρ σ τ ε α}
      (found : world.program = .release next) (held : world.guard = .held) :
      Step world { world with guard := .free, program := next }
  | refuse {next : Guarded κ ρ σ τ ε α} (error : ε)
      (found : world.program = .release next) (lost : world.guard = .lost) :
      Step world { world with program := .failed error }

/-- The worlds that a program can get to. -/
inductive Run (start : Guarded κ ρ σ τ ε α) : World κ ρ σ τ ε α → Prop where
  | begins (content : κ) (others : List (Other κ)) :
      Run start
        { content, others, guard := .free, program := start, trace := [] }
  | step {world after : World κ ρ σ τ ε α} (run : Run start world)
      (step : Step world after) : Run start after

/-! ### While the lock is held -/

/-- Nobody can change the table or begin to. -/
theorem Disturbs.held {content after : κ} {others remaining : List (Other κ)}
    (quiet : ∀ other ∈ others, ¬other.Writes)
    (disturbs : Disturbs .held content others after remaining) :
    after = content ∧ ∀ other ∈ remaining, ¬other.Writes := by
  cases disturbs with
  | join =>
      constructor
      · rfl
      · intro other member
        rcases List.mem_append.mp member with earlier | new
        · exact quiet other earlier
        · rw [List.mem_singleton.mp new]
          exact id
  | share found _ =>
      constructor
      · rfl
      · intro other member
        rcases List.mem_or_eq_of_mem_set member with earlier | same
        · exact quiet other earlier
        · rw [same]
          exact id
  | write change found unguarded unshared => exact absurd rfl unguarded
  | commit found =>
      exact absurd trivial (quiet _ (List.mem_of_getElem? found))
  | leave found =>
      constructor
      · rfl
      · intro other member
        rcases List.mem_or_eq_of_mem_set member with earlier | same
        · exact quiet other earlier
        · rw [same]
          exact id

/-- Whatever the program goes on to do on the content, it has done all of it
on that content. -/
def Continues (content : κ) (start : Guarded κ ρ σ τ ε α)
    (world : World κ ρ σ τ ε α) : Prop :=
  ∀ trace value, Returns content world.program trace value →
    Returns content start (world.trace ++ trace) value

/-- What holds of a world, by where its program is. -/
inductive Sound (start : Guarded κ ρ σ τ ε α) (world : World κ ρ σ τ ε α) :
    Prop where
  | before (place : world.program.Before)
      (continues : ∀ content, Continues content start world)
  | inside (held : world.guard = .held) (place : world.program.Inside)
      (quiet : ∀ other ∈ world.others, ¬other.Writes)
      (continues : Continues world.content start world)
  | lost (lost : world.guard = .lost) (place : world.program.Inside)
  | outside (content : κ) (place : world.program.Outside)
      (continues : Continues content start world)
  | failed (error : ε) (ended : world.program = .failed error)

section Steps

variable {start : Guarded κ ρ σ τ ε α} {world : World κ ρ σ τ ε α}

/-- Steps of the others do not matter to a sound world. -/
theorem Sound.disturb (sound : Sound start world) {content : κ}
    {others : List (Other κ)}
    (disturbs :
      Disturbs world.guard world.content world.others content others) :
    Sound start { world with content := content, others := others } := by
  cases sound with
  | before place continues => exact .before place continues
  | inside held place quiet continues =>
      rw [held] at disturbs
      obtain ⟨same, quiet⟩ := disturbs.held quiet
      subst same
      exact .inside held place quiet continues
  | lost lost place => exact .lost lost place
  | outside content place continues => exact .outside content place continues
  | failed error ended => exact .failed error ended

/-- The program makes a step that the lock has nothing to do with. -/
theorem Sound.advance (sound : Sound start world)
    {next : Guarded κ ρ σ τ ε α} {event : Event κ ρ σ τ}
    (running : ∀ error, world.program ≠ .failed error)
    (before : world.program.Before → next.Before)
    (inside : world.program.Inside → next.Inside)
    (outside : world.program.Outside → next.Outside)
    (returns : ∀ content trace value, Returns content next trace value →
      Returns content world.program (event :: trace) value) :
    Sound start
      { world with program := next, trace := world.trace ++ [event] } := by
  have onward : ∀ content, Continues content start world →
      Continues content start
        { world with program := next, trace := world.trace ++ [event] } := by
    intro content continues trace value ends
    change Returns content start (world.trace ++ [event] ++ trace) value
    rw [List.append_assoc]
    exact continues _ _ (returns content trace value ends)
  cases sound with
  | before place continues =>
      exact .before (before place) (fun content => onward content
        (continues content))
  | inside held place quiet continues =>
      exact .inside held (inside place) quiet (onward _ continues)
  | lost lost place => exact .lost lost (inside place)
  | outside content place continues =>
      exact .outside content (outside place) (onward content continues)
  | failed error ended => exact absurd ended (running error)

theorem Sound.read (sound : Sound start world) {query : κ → List ρ}
    {next : { rows : List ρ // ∃ content, query content = rows } →
      Guarded κ ρ σ τ ε α}
    (found : world.program = .read query next) :
    Sound start
      { world with
        program := next ⟨query world.content, world.content, rfl⟩
        trace := world.trace ++ [.read query (query world.content)] } := by
  cases sound with
  | before place continues =>
      rw [found] at place
      exact place.elim
  | inside held place quiet continues =>
      rw [found] at place
      refine Sound.inside held (place _) quiet ?_
      intro trace value ends
      change Returns world.content start (world.trace ++
        [.read query (query world.content)] ++ trace) value
      rw [List.append_assoc]
      apply continues
      rw [found]
      exact .read ends
  | lost lost place =>
      rw [found] at place
      exact .lost lost (place _)
  | outside content place continues =>
      rw [found] at place
      exact place.elim
  | failed error ended =>
      rw [found] at ended
      cases ended

theorem Sound.lock (sound : Sound start world) {next : Guarded κ ρ σ τ ε α}
    (found : world.program = .lock next)
    (quiet : ∀ other ∈ world.others, ¬other.Writes) :
    Sound start { world with guard := .held, program := next } := by
  cases sound with
  | before place continues =>
      rw [found] at place
      refine Sound.inside rfl place quiet ?_
      intro trace value ends
      apply continues
      rw [found]
      exact .lock ends
  | inside held place quiet continues =>
      rw [found] at place
      exact place.elim
  | lost lost place =>
      rw [found] at place
      exact place.elim
  | outside content place continues =>
      rw [found] at place
      exact place.elim
  | failed error ended =>
      rw [found] at ended
      cases ended

theorem Sound.release (sound : Sound start world)
    {next : Guarded κ ρ σ τ ε α} (found : world.program = .release next)
    (held : world.guard = .held) :
    Sound start { world with guard := .free, program := next } := by
  cases sound with
  | before place continues =>
      rw [found] at place
      exact place.elim
  | inside held place quiet continues =>
      rw [found] at place
      refine Sound.outside world.content place ?_
      intro trace value ends
      apply continues
      rw [found]
      exact .release ends
  | lost lost place =>
      rw [held] at lost
      cases lost
  | outside content place continues =>
      rw [found] at place
      exact place.elim
  | failed error ended =>
      rw [found] at ended
      cases ended

theorem Sound.lose (sound : Sound start world) :
    Sound start { world with guard := .lost } := by
  cases sound with
  | before place continues => exact .before place continues
  | inside held place quiet continues => exact .lost rfl place
  | lost lost place => exact .lost rfl place
  | outside content place continues => exact .outside content place continues
  | failed error ended => exact .failed error ended

theorem Sound.step (sound : Sound start world)
    {after : World κ ρ σ τ ε α} (step : Step world after) :
    Sound start after := by
  cases step with
  | disturb disturbs => exact sound.disturb disturbs
  | lose held => exact sound.lose
  | fail error running => exact .failed error rfl
  | lock found quiet => exact sound.lock found quiet
  | read found => exact sound.read found
  | ask store found =>
      apply sound.advance
      · intro error ended
        rw [found] at ended
        cases ended
      · rw [found]
        exact fun place => place store
      · rw [found]
        exact fun place => place store
      · rw [found]
        exact fun place => place store
      · intro content trace value ends
        rw [found]
        exact .ask store ends
  | submit found =>
      apply sound.advance
      · intro error ended
        rw [found] at ended
        cases ended
      · rw [found]
        exact id
      · rw [found]
        exact id
      · rw [found]
        exact id
      · intro content trace value ends
        rw [found]
        exact .submit _ ends
  | release found held => exact sound.release found held
  | refuse error found lost => exact .failed error rfl

theorem Run.sound (place : start.Before) (run : Run start world) :
    Sound start world := by
  induction run with
  | begins content others =>
      apply Sound.before place
      intro content trace value ends
      exact ends
  | step run step ih => exact ih.step step

/-- A program that keeps the lock while it reads returns as if the table had
never changed. -/
theorem Run.returns (place : start.Before) (run : Run start world)
    {value : α} (returned : world.program = .done value) :
    ∃ content, Returns content start world.trace value := by
  have ends : ∀ content, Continues content start world →
      Returns content start world.trace value := by
    intro content continues
    have whole := continues [] value (by rw [returned]; exact .done value)
    rw [List.append_nil] at whole
    exact whole
  cases run.sound place with
  | before place continues =>
      rw [returned] at place
      exact place.elim
  | inside held place quiet continues =>
      rw [returned] at place
      exact place.elim
  | lost lost place =>
      rw [returned] at place
      exact place.elim
  | outside content place continues => exact ⟨content, ends content continues⟩
  | failed error ended =>
      rw [returned] at ended
      cases ended

/-- A program that nobody disturbs gets to the value it returns alone. -/
theorem Returns.reaches {program : Guarded κ ρ σ τ ε α}
    {trace : List (Event κ ρ σ τ)} {value : α}
    (returns : Returns world.content program trace value)
    (run : Run start world) (current : world.program = program)
    (quiet : ∀ other ∈ world.others, ¬other.Writes)
    (place : program.Before ∨ program.Outside ∨
      world.guard = .held ∧ program.Inside) :
    ∃ after, Run start after ∧ after.program = .done value ∧
      after.content = world.content := by
  generalize same : world.content = content at returns
  induction returns generalizing world with
  | done value => exact ⟨world, run, current, same⟩
  | ask store rest ih =>
      apply ih (run.step (.ask store current)) rfl quiet _ same
      rcases place with before | outside | inside
      · exact .inl (before store)
      · exact .inr (.inl (outside store))
      · exact .inr (.inr ⟨inside.1, inside.2 store⟩)
  | submit transaction rest ih =>
      exact ih (run.step (.submit current)) rfl quiet place same
  | lock rest ih =>
      rcases place with before | outside | inside
      · exact ih (run.step (.lock current quiet)) rfl quiet
          (.inr (.inr ⟨rfl, before⟩)) same
      · exact outside.elim
      · exact inside.2.elim
  | read rest ih =>
      subst same
      rcases place with before | outside | inside
      · exact before.elim
      · exact outside.elim
      · exact ih (run.step (.read current)) rfl quiet
          (.inr (.inr ⟨inside.1, inside.2 _⟩)) rfl
  | release rest ih =>
      rcases place with before | outside | inside
      · exact before.elim
      · exact outside.elim
      · exact ih (run.step (.release current inside.1)) rfl quiet
          (.inr (.inl inside.2)) same

/-- A program that keeps the lock returns a value among other sessions exactly
if it returns it on some content that does not change. -/
theorem runs_iff (place : start.Before) {value : α} :
    (∃ world, Run start world ∧ world.program = .done value) ↔
      ∃ content, SessionReturns (start.fixed content) value := by
  constructor
  · intro some_
    obtain ⟨world, run, returned⟩ := some_
    obtain ⟨content, returns⟩ := run.returns place returned
    exact ⟨content, returns.fixed⟩
  · intro some_
    obtain ⟨content, returns⟩ := some_
    obtain ⟨trace, returns⟩ := returns_iff_fixed.mpr returns
    have nobody : ∀ other ∈ ([] : List (Other κ)), ¬other.Writes := by
      intro other member
      cases member
    obtain ⟨after, run, returned, _⟩ := Returns.reaches returns
      (Run.begins content []) rfl nobody (.inl place)
    exact ⟨after, run, returned⟩

end Steps

end Guarded

end Foundation
