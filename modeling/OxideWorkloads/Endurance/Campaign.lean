/-
The acceptance controller of a campaign: one guarded iteration after another,
until the acceptance floors hold or the campaign cannot go on.

The clock and the guarded step are closures in the source, over a state of
their own; here they are two programs over one state.
-/

import OxideWorkloads.Endurance.Batch
import OxideWorkloads.Foundation.Scripted

namespace Endurance

open Foundation
open Foundation.CrashRun
open Foundation.Checks

def runCampaignSchema : String :=
  "oxide-batch-workloads.endurance-run-campaign"

/-- A duration is its nanoseconds. -/
def canonicalMinimumElapsed : Nat := 24 * 60 * 60 * 1000000000

def canonicalMinimumCompletedIterations : Nat := 100

structure CampaignAcceptancePolicy where
  minimumElapsed : Nat
  minimumCompletedIterations : Nat
  deriving DecidableEq, Repr

def CampaignAcceptancePolicy.canonical : CampaignAcceptancePolicy :=
  { minimumElapsed := canonicalMinimumElapsed
    minimumCompletedIterations := canonicalMinimumCompletedIterations }

inductive CampaignStopReason where
  | acceptanceFloorsSatisfied
  | resumeBlocked
  | guardBlocked
  deriving DecidableEq, Repr

structure CampaignRunResult where
  schema : String
  schemaVersion : Nat
  campaignId : String
  campaignStartedAtUnixNanosUtc : Nat
  observedAtUnixNanosUtc : Nat
  elapsedNanos : Nat
  minimumElapsedNanos : Nat
  minimumCompletedIterations : Nat
  initialFrontierSequence : Nat
  finalFrontierSequence : Nat
  initialCompletedIterations : Nat
  finalCompletedIterations : Nat
  iterationsCompletedByInvocation : Nat
  stopReason : CampaignStopReason
  terminalResumeStatus : ResumeStatus

/-! ### The checks of the controller -/

def policyMinimumElapsedNanos (policy : CampaignAcceptancePolicy) :
    Except String Nat := do
  ensure (policy.minimumElapsed ≤ u64Max)
    "minimum elapsed duration does not fit u64 nanoseconds"
  return policy.minimumElapsed

def validatePolicy (policy : CampaignAcceptancePolicy) :
    Except String Unit := do
  ensure (policy.minimumCompletedIterations ≠ 0)
    "minimum completed iterations must be greater than zero"
  let _ ← policyMinimumElapsedNanos policy
  return ()

def checkedElapsedNanos (startedAt observedAt : Nat) : Except String Nat := do
  ensure (startedAt ≤ observedAt)
    (s!"observed campaign clock {observedAt} precedes durable campaign " ++
      s!"start {startedAt}")
  return observedAt - startedAt

def finishResult (campaignId : String) (startedAt observedAt : Nat)
    (policy : CampaignAcceptancePolicy) (initialFrontier : Nat)
    (stopReason : CampaignStopReason) (terminal : ResumeStatus) :
    Except String CampaignRunResult := do
  let elapsedNanos ← checkedElapsedNanos startedAt observedAt
  ensure (initialFrontier ≤ terminal.frontierSequence)
    "durable frontier moved backwards during campaign run"
  let minimumElapsedNanos ← policyMinimumElapsedNanos policy
  return {
    schema := runCampaignSchema
    schemaVersion := schemaVersion
    campaignId := campaignId
    campaignStartedAtUnixNanosUtc := startedAt
    observedAtUnixNanosUtc := observedAt
    elapsedNanos := elapsedNanos
    minimumElapsedNanos := minimumElapsedNanos
    minimumCompletedIterations := policy.minimumCompletedIterations
    initialFrontierSequence := initialFrontier
    finalFrontierSequence := terminal.frontierSequence
    initialCompletedIterations := initialFrontier
    finalCompletedIterations := terminal.frontierSequence
    iterationsCompletedByInvocation :=
      terminal.frontierSequence - initialFrontier
    stopReason := stopReason
    terminalResumeStatus := terminal }

/-- The checks on every step, whatever stopped it. -/
def checkStep (campaignId : String) (current : ResumeStatus)
    (step : GuardedBatchResult) : Except String Unit := do
  ensure (step.campaignId = campaignId)
    (s!"guarded step campaign {Text.debug step.campaignId} disagrees with " ++
      s!"requested campaign {Text.debug campaignId}")
  ensure (step.startingFrontierSequence = current.frontierSequence)
    ("guarded step started from frontier " ++
      s!"{step.startingFrontierSequence} but controller expected " ++
      s!"{current.frontierSequence}")

/-- The status behind a step that completed its iteration. -/
def advancedStatus (current : ResumeStatus) (step : GuardedBatchResult) :
    Except String ResumeStatus := do
  ensure (step.completedIterations = 1 ∧ step.completedSequences.length = 1)
    ("one-step guarded execution completed " ++
      s!"{step.completedIterations} iterations with " ++
      s!"{step.completedSequences.length} sequences")
  let expected := current.frontierSequence + 1
  ensure (expected ≤ u64Max) "durable frontier sequence overflow"
  ensure (step.completedSequences[0]? = some expected)
    (s!"guarded step completed sequence {step.completedSequences.headD 0} " ++
      s!"but controller expected {expected}")
  ensure (step.terminalResumeStatus.frontierSequence = expected)
    ("guarded terminal frontier " ++
      s!"{step.terminalResumeStatus.frontierSequence} did not advance " ++
      s!"exactly to {expected}")
  return step.terminalResumeStatus

/-! ### The loop -/

section Loop

variable {σ : Type} (campaignId : String) (startedAt : Nat)
variable (initialFrontier : Nat) (policy : CampaignAcceptancePolicy)
variable (now : CrashRun σ String Nat)
variable (nextStep : CrashRun σ String GuardedBatchResult)

/-- What a step means for the loop: a result behind a block, which reads the
clock again, or the status of the next turn. -/
def judgeStep (current : ResumeStatus) (step : GuardedBatchResult) :
    CrashRun σ String (CampaignRunResult ⊕ ResumeStatus) := do
  ofExcept (checkStep campaignId current step)
  match step.stopReason with
  | .requestedCountCompleted => do
      let next ← ofExcept (advancedStatus current step)
      return .inr next
  | .resumeBlocked => do
      let observedAt ← now
      let result ← ofExcept (finishResult campaignId startedAt observedAt
        policy initialFrontier .resumeBlocked step.terminalResumeStatus)
      return .inl result
  | .guardBlocked => do
      let observedAt ← now
      let result ← ofExcept (finishResult campaignId startedAt observedAt
        policy initialFrontier .guardBlocked step.terminalResumeStatus)
      return .inl result

def acceptanceTurn (current : ResumeStatus) :
    CrashRun σ String (CampaignRunResult ⊕ ResumeStatus) := do
  let observedAt ← now
  let elapsedNanos ← ofExcept (checkedElapsedNanos startedAt observedAt)
  if current.state ≠ .ready then do
    let result ← ofExcept (finishResult campaignId startedAt observedAt
      policy initialFrontier .resumeBlocked current)
    return .inl result
  else do
    let minimumElapsedNanos ← ofExcept (policyMinimumElapsedNanos policy)
    if minimumElapsedNanos ≤ elapsedNanos ∧
        policy.minimumCompletedIterations ≤ current.frontierSequence then do
      let result ← ofExcept (finishResult campaignId startedAt observedAt
        policy initialFrontier .acceptanceFloorsSatisfied current)
      return .inl result
    else do
      let step ← nextStep
      judgeStep campaignId startedAt initialFrontier policy now current step

/-- At most so many turns; without a result the loop still runs. -/
def acceptanceTurns :
    Nat → ResumeStatus → CrashRun σ String (Option CampaignRunResult)
  | 0, _ => pure none
  | remaining + 1, current => do
      let turn ← acceptanceTurn campaignId startedAt initialFrontier policy
        now nextStep current
      match turn with
      | .inl result => pure (some result)
      | .inr next => acceptanceTurns remaining next

end Loop

def runAcceptanceLoop {σ : Type} (campaignId : String) (startedAt : Nat)
    (initialResume : ResumeStatus) (policy : CampaignAcceptancePolicy)
    (now : CrashRun σ String Nat)
    (nextStep : CrashRun σ String GuardedBatchResult) (turns : Nat) :
    CrashRun σ String (Option CampaignRunResult) := do
  ofExcept (validatePolicy policy)
  ofExcept (ensure (initialResume.campaignId = campaignId)
    (s!"initial resume campaign {Text.debug initialResume.campaignId} " ++
      s!"disagrees with requested campaign {Text.debug campaignId}"))
  acceptanceTurns campaignId startedAt initialResume.frontierSequence policy
    now nextStep turns initialResume

/-! ### The command -/

/-- The guard program is run anew in every step; `guards` tells its runs. -/
def guardedStep (setting : Setting) (campaignId : String)
    (intervalMillis : Nat) (guards : Nat → GuardRun) :
    CrashRun (World × Nat) String GuardedBatchResult :=
  fun state =>
    let ends := executeGuardedBoundedBatch setting campaignId intervalMillis
      (fun attempt => guards (state.2 + attempt)) 1 state.1
    (ends.1, (ends.2, state.2 + 1))

def executeAcceptanceCampaignWithPolicy (setting : Setting)
    (campaignId : String) (intervalMillis : Nat) (guards : Nat → GuardRun)
    (policy : CampaignAcceptancePolicy) (turns : Nat) :
    CrashRun (World × Nat) String (Option CampaignRunResult) := do
  ofExcept (validatePolicy policy)
  let store ← onFirst (EvidenceStore.open setting campaignId)
  let disk ← onFirst readDisk
  let initialResume ← ofExcept (reconcileResumeStatus setting campaignId disk)
  runAcceptanceLoop campaignId store.campaign.createdAtUnixNanosUtc
    initialResume policy (onFirst nowUnixNanos)
    (guardedStep setting campaignId intervalMillis guards) turns

/-- Only the canonical floors accept a campaign of the command line. -/
def executeAcceptanceCampaign (setting : Setting) (campaignId : String)
    (intervalMillis : Nat) (guards : Nat → GuardRun) (turns : Nat) :
    CrashRun (World × Nat) String (Option CampaignRunResult) :=
  executeAcceptanceCampaignWithPolicy setting campaignId intervalMillis guards
    .canonical turns

end Endurance
