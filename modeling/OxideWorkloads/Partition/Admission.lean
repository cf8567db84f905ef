/-
One launch of partition workers: the occupancy counters and the admission gate
that the workers share, as the interleaving of their atomic steps.

The runtime starts a pending task while fewer than `workers` tasks are started
and unfinished.  What a task does between its admission and its end is one
step, whatever it returns.  The barrier releases all who wait at it when the
last one arrives.
-/

import OxideWorkloads.Foundation.Roster
import OxideWorkloads.Partition.PlanExact

namespace Partition

inductive Stage where
  | pending
  /-- `execute` was called. -/
  | started
  /-- `active` was incremented. -/
  | counted
  /-- `peak` was raised: the task has entered. -/
  | entered
  /-- The task has its slot. -/
  | slotted
  /-- `arrived` was incremented. -/
  | announced
  /-- The task waits at the barrier. -/
  | waiting
  /-- `admit` returned without an error. -/
  | admitted
  /-- The task has its result. -/
  | leaving
  /-- `active` was decremented and the task returned. -/
  | finished
  deriving DecidableEq

/-- A task with what it read: the value of `active` after its increment, and
its slot. -/
structure Task where
  stage : Stage
  observed : Int
  slot : Nat
  deriving DecidableEq

def Task.fresh : Task := { stage := .pending, observed := 0, slot := 0 }

structure Occupancy where
  active : Int
  peak : Int
  deriving DecidableEq

/-- The gate; `waiters` counts the arrivals at the barrier since it last
opened. -/
structure AdmissionGate where
  nextSlot : Nat
  arrived : Nat
  waiters : Nat
  deriving DecidableEq

structure LaunchState where
  tasks : List Task
  occupancy : Occupancy
  gate : AdmissionGate
  deriving DecidableEq

def LaunchState.fresh (tasks : Nat) : LaunchState :=
  { tasks := List.replicate tasks Task.fresh
    occupancy := { active := 0, peak := 0 }
    gate := { nextSlot := 0, arrived := 0, waiters := 0 } }

/-! ### Stages -/

def Task.busy (task : Task) : Bool :=
  task.stage ≠ .pending ∧ task.stage ≠ .finished

/-- Counted in `active`. -/
def Task.present (task : Task) : Bool :=
  task.busy ∧ task.stage ≠ .started

def Task.hasEntered (task : Task) : Bool :=
  task.stage ≠ .pending ∧ task.stage ≠ .started ∧ task.stage ≠ .counted

def Task.hasSlot (task : Task) : Bool :=
  task.hasEntered ∧ task.stage ≠ .entered

def Task.isWaiting (task : Task) : Bool := task.stage = .waiting

def Task.passed (task : Task) : Bool :=
  task.stage = .admitted ∨ task.stage = .leaving ∨ task.stage = .finished

def LaunchState.count (state : LaunchState) (counted : Task → Bool) : Nat :=
  state.tasks.countP counted

/-! ### Steps -/

inductive Action where
  | start
  | increment
  | raise
  | takeSlot
  | pass
  | announce
  | wait
  | timeout
  | finish
  | leave
  deriving DecidableEq

def LaunchState.put (state : LaunchState) (position : Nat) (task : Task) :
    LaunchState :=
  { state with tasks := state.tasks.set position task }

def Task.release (task : Task) : Task :=
  if task.isWaiting then { task with stage := .admitted } else task

/-- The arrival of a task at the barrier, which holds `target` waiters, at
least one. -/
def LaunchState.arrive (state : LaunchState) (target position : Nat)
    (task : Task) : LaunchState :=
  let waits := state.put position { task with stage := .waiting }
  let waiters := state.gate.waiters + 1
  if waiters = max target 1 then
    { waits with
      tasks := waits.tasks.map Task.release
      gate := { state.gate with waiters := 0 } }
  else { waits with gate := { state.gate with waiters } }

/-- One atomic step of the task at a position.  The gate was made for
`workers` tasks. -/
def step (workers : Nat) (state : LaunchState) (action : Action)
    (position : Nat) : Option LaunchState :=
  match state.tasks[position]? with
  | none => none
  | some task =>
      match action, task.stage with
      | .start, .pending =>
          if state.count Task.busy < workers then
            some (state.put position { task with stage := .started })
          else none
      | .increment, .started =>
          let active := state.occupancy.active + 1
          let counted := { state.occupancy with active }
          some { state.put position
              { task with stage := .counted, observed := active } with
            occupancy := counted }
      | .raise, .counted =>
          let peak := max state.occupancy.peak task.observed
          let raised := { state.occupancy with peak }
          some { state.put position { task with stage := .entered } with
            occupancy := raised }
      | .takeSlot, .entered =>
          let slot := state.gate.nextSlot
          some { state.put position { task with stage := .slotted, slot } with
            gate := { state.gate with nextSlot := slot + 1 } }
      | .pass, .slotted =>
          if workers ≤ task.slot then
            some (state.put position { task with stage := .admitted })
          else none
      | .announce, .slotted =>
          if workers ≤ task.slot then none
          else
            let arrived := state.gate.arrived + 1
            some { state.put position { task with stage := .announced } with
              gate := { state.gate with arrived } }
      | .wait, .announced => some (state.arrive workers position task)
      | .timeout, .waiting =>
          some (state.put position { task with stage := .leaving })
      | .finish, .admitted =>
          some (state.put position { task with stage := .leaving })
      | .leave, .leaving =>
          let active := state.occupancy.active - 1
          let left := { state.occupancy with active }
          some { state.put position { task with stage := .finished } with
            occupancy := left }
      | _, _ => none

def runSteps (workers : Nat) (state : LaunchState) :
    List (Action × Nat) → Option LaunchState
  | [] => some state
  | (action, position) :: rest =>
      match step workers state action position with
      | none => none
      | some next => runSteps workers next rest

/-- The states of a launch of so many tasks in which no admission has timed
out. -/
def Reachable (workers tasks : Nat) (state : LaunchState) : Prop :=
  ∃ steps : List (Action × Nat), (∀ entry ∈ steps, entry.1 ≠ .timeout) ∧
    runSteps workers (LaunchState.fresh tasks) steps = some state

end Partition
