/-
Bounded batches of run-next steps, plain ones and ones with a guard program
before every step.

The guard is a program outside the repository; what it does in its runs is
given from the start, run by run.
-/

import OxideWorkloads.Endurance.Sampling

namespace Endurance

open Foundation
open Foundation.CrashRun
open Foundation.Checks

/-! ### Guards -/

inductive GuardDecision where
  | allow
  | block
  deriving DecidableEq, Repr

inductive GuardBlockKind where
  | nonzeroExit
  | signal
  | spawnFailure
  | waitFailure
  deriving DecidableEq, Repr

structure GuardAttempt where
  sequence : Nat
  decision : GuardDecision
  blockKind : Option GuardBlockKind
  exitCode : Option Int32
  deriving DecidableEq

/-- What happens when the guard program is run. -/
inductive GuardRun where
  | notSpawned
  | notWaited
  | exited (status : ExitStatus)

def blockedGuard (sequence : Nat) (blockKind : GuardBlockKind)
    (exitCode : Option Int32) : GuardAttempt :=
  { sequence := sequence
    decision := .block
    blockKind := some blockKind
    exitCode := exitCode }

def runGuard (run : GuardRun) (sequence : Nat) : GuardAttempt :=
  match run with
  | .notSpawned => blockedGuard sequence .spawnFailure none
  | .notWaited => blockedGuard sequence .waitFailure none
  | .exited status =>
      if status.success = true then
        { sequence := sequence
          decision := .allow
          blockKind := none
          exitCode := status.code }
      else
        match status.code with
        | some code => blockedGuard sequence .nonzeroExit (some code)
        | none => blockedGuard sequence .signal none

def GuardRun.allows : GuardRun → Bool
  | .exited status => status.success
  | _ => false

theorem runGuard_decision (run : GuardRun) (sequence : Nat) :
    (runGuard run sequence).decision = .allow ↔ run.allows = true := by
  cases run with
  | notSpawned => simp [runGuard, blockedGuard, GuardRun.allows]
  | notWaited => simp [runGuard, blockedGuard, GuardRun.allows]
  | exited status =>
      simp only [runGuard, GuardRun.allows]
      by_cases success : status.success = true
      · simp [success]
      · cases code : status.code <;> simp [success, blockedGuard]

theorem runGuard_sequence (run : GuardRun) (sequence : Nat) :
    (runGuard run sequence).sequence = sequence := by
  cases run with
  | notSpawned => rfl
  | notWaited => rfl
  | exited status =>
      simp only [runGuard]
      split_ifs
      · rfl
      · cases status.code <;> rfl

/-! ### Guarded batches -/

inductive GuardedBatchStopReason where
  | requestedCountCompleted
  | resumeBlocked
  | guardBlocked
  deriving DecidableEq, Repr

def guardedBatchSchema : String :=
  "oxide-batch-workloads.endurance-run-guarded-batch"

structure GuardedBatchResult where
  schema : String
  schemaVersion : Nat
  campaignId : String
  requestedIterations : Nat
  completedIterations : Nat
  startingFrontierSequence : Nat
  completedSequences : List Nat
  guardAttempts : List GuardAttempt
  stopReason : GuardedBatchStopReason
  terminalResumeStatus : ResumeStatus

/-- The variables of the loop. -/
structure GuardedProgress where
  completedSequences : List Nat
  guardAttempts : List GuardAttempt
  startingFrontierSequence : Option Nat
  terminalResumeStatus : Option ResumeStatus
  stopReason : GuardedBatchStopReason

def GuardedProgress.start : GuardedProgress :=
  { completedSequences := []
    guardAttempts := []
    startingFrontierSequence := none
    terminalResumeStatus := none
    stopReason := .requestedCountCompleted }

/-- The frontier of the first reconciliation is kept. -/
def evaluated (starting : Option Nat) (preExecution : ResumeStatus) :
    Option Nat :=
  some (starting.getD preExecution.frontierSequence)

section Batch

variable (setting : Setting) (campaignId : String) (intervalMillis : Nat)

/-- The part of a turn behind the guard. -/
def executeGuarded (preExecution : ResumeStatus) (sequence : Nat) :
    Program Unit := do
  let step ← executeSelectedSampledRecordedIteration setting campaignId
    preExecution intervalMillis
  ofExcept (ensure (step.selectedSequence = some sequence)
    s!"selected execution disagrees with guarded sequence {sequence}")
  ofExcept (ensure (step.execution.isSome = true)
    ("guarded ready step returned no execution result for sequence " ++
      s!"{sequence}"))

/-- At most so many turns.  `guards` tells the runs of the guard program in
their order. -/
def guardedLoop (guards : Nat → GuardRun) :
    Nat → GuardedProgress → Program GuardedProgress
  | 0, progress => pure progress
  | remaining + 1, progress => do
      let disk ← readDisk
      let preExecution ← ofExcept
        (reconcileResumeStatus setting campaignId disk)
      let starting :=
        evaluated progress.startingFrontierSequence preExecution
      if preExecution.state ≠ .ready then
        return { progress with
          startingFrontierSequence := starting
          terminalResumeStatus := some preExecution
          stopReason := .resumeBlocked }
      else do
        let (sequence, _) ← ofExcept (selectPlan preExecution campaignId)
        let guard := runGuard (guards progress.guardAttempts.length) sequence
        let attempted :=
          { progress with
            startingFrontierSequence := starting
            guardAttempts := progress.guardAttempts ++ [guard] }
        if guard.decision ≠ .allow then
          return { attempted with
            terminalResumeStatus := some preExecution
            stopReason := .guardBlocked }
        else do
          executeGuarded setting campaignId intervalMillis preExecution
            sequence
          guardedLoop guards remaining
            { attempted with
              completedSequences :=
                progress.completedSequences ++ [sequence] }

/-- The status at the end: the one that stopped the loop, or a new one. -/
def terminalStatus (found : Option ResumeStatus) : Program ResumeStatus :=
  match found with
  | some status => pure status
  | none => do
      let disk ← readDisk
      ofExcept (reconcileResumeStatus setting campaignId disk)

def executeGuardedBoundedBatch (guards : Nat → GuardRun)
    (requestedIterations : Nat) : Program GuardedBatchResult := do
  ofExcept (ensure (requestedIterations ≠ 0)
    "requested iterations must be greater than zero")
  let progress ← guardedLoop setting campaignId intervalMillis guards
    requestedIterations .start
  let starting ← ofExcept (require progress.startingFrontierSequence
    "guarded batch did not evaluate a resume frontier")
  let terminal ← terminalStatus setting campaignId
    progress.terminalResumeStatus
  ofExcept (ensure (progress.completedSequences.length ≤ u64Max)
    "completed iteration count does not fit u64")
  return {
    schema := guardedBatchSchema
    schemaVersion := schemaVersion
    campaignId := campaignId
    requestedIterations := requestedIterations
    completedIterations := progress.completedSequences.length
    startingFrontierSequence := starting
    completedSequences := progress.completedSequences
    guardAttempts := progress.guardAttempts
    stopReason := progress.stopReason
    terminalResumeStatus := terminal }

/-! ### Plain batches -/

def runBatchSchema : String := "oxide-batch-workloads.endurance-run-batch"

end Batch

structure RunBatchResult where
  schema : String
  schemaVersion : Nat
  campaignId : String
  requestedIterations : Nat
  completedIterations : Nat
  startingFrontierSequence : Nat
  completedSequences : List Nat
  terminalResumeStatus : ResumeStatus

structure BatchProgress where
  completedSequences : List Nat
  startingFrontierSequence : Option Nat
  terminalResumeStatus : Option ResumeStatus

def BatchProgress.start : BatchProgress :=
  { completedSequences := []
    startingFrontierSequence := none
    terminalResumeStatus := none }

section Batch

variable (setting : Setting) (campaignId : String) (intervalMillis : Nat)

def boundedLoop : Nat → BatchProgress → Program BatchProgress
  | 0, progress => pure progress
  | remaining + 1, progress => do
      let step ← executeNextSampledRecordedIteration setting campaignId
        intervalMillis
      let starting :=
        evaluated progress.startingFrontierSequence step.preExecution
      if step.preExecution.state ≠ .ready then
        return { progress with
          startingFrontierSequence := starting
          terminalResumeStatus := some step.preExecution }
      else do
        let sequence ← ofExcept (require step.selectedSequence
          "ready Slice G step is missing selected_sequence")
        ofExcept (ensure (step.execution.isSome = true)
          ("ready Slice G step returned no execution result for sequence " ++
            s!"{sequence}"))
        boundedLoop remaining
          { progress with
            startingFrontierSequence := starting
            completedSequences := progress.completedSequences ++ [sequence] }

def executeBoundedBatch (requestedIterations : Nat) :
    Program RunBatchResult := do
  ofExcept (ensure (requestedIterations ≠ 0)
    "requested iterations must be greater than zero")
  let progress ← boundedLoop setting campaignId intervalMillis
    requestedIterations .start
  let starting ← ofExcept (require progress.startingFrontierSequence
    "bounded batch did not evaluate a resume frontier")
  let terminal ← terminalStatus setting campaignId
    progress.terminalResumeStatus
  ofExcept (ensure (progress.completedSequences.length ≤ u64Max)
    "completed iteration count does not fit u64")
  return {
    schema := runBatchSchema
    schemaVersion := schemaVersion
    campaignId := campaignId
    requestedIterations := requestedIterations
    completedIterations := progress.completedSequences.length
    startingFrontierSequence := starting
    completedSequences := progress.completedSequences
    terminalResumeStatus := terminal }

end Batch

end Endurance
