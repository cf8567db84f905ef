/-
A recorded iteration under the resource sampler, and the run-next step that
selects it from the durable evidence.

The sampler moves whenever the program takes the lock or waits for it to end,
as far as the environment says.
-/

import OxideWorkloads.Endurance.Iteration

namespace Endurance

open Foundation
open Foundation.CrashRun
open Foundation.Checks

def minSampleIntervalMillis : Nat := 10
def maxSampleIntervalMillis : Nat := 60000

/-! ### The observer -/

def changeSampler (update : Sampler → Sampler) : Program Unit :=
  modify (fun world => { world with sampler := update world.sampler })

/-- The sampler takes some steps. -/
def World.advance (inputs : List SamplerInput) (world : World) : World :=
  let advanced := world.sampler.run inputs world.disk.samples
  { world with
    sampler := advanced.1
    disk := { world.disk with samples := advanced.2 } }

/-- What the sampler does before the program goes on. -/
def World.yielded (world : World) : World :=
  world.consulted.advance ((world.supply 0).schedule world.sampler)

/-- The sampler moves, and the process may be killed at that time. -/
def yieldToSampler : Program Answer := do
  let answer ← consult
  let world ← CrashRun.state
  modify (World.advance (answer.schedule world.sampler))
  if answer.killed = true then kill else pure answer

@[simp] theorem wp_yieldToSampler (post : Post World String Answer)
    (world : World) :
    wp yieldToSampler post world ↔
      if (world.supply 0).killed = true then post.killed world.yielded
      else post.ok (world.supply 0) world.yielded := by
  simp only [yieldToSampler, wp_bind, wp_consult, wp_state, wp_modify]
  split_ifs <;> exact Iff.rfl

def lockState : Program SamplerState := do
  let _ ← yieldToSampler
  let world ← CrashRun.state
  return world.sampler.state

def failIfSamplerFailed (state : SamplerState) : Except String Unit :=
  match state.failure with
  | some failure => .error s!"resource sampler failed: {failure}"
  | none => .ok ()

/-- Take the lock of a sampler that has not failed. -/
def lockWorking : Program SamplerState := do
  let state ← lockState
  ofExcept (failIfSamplerFailed state)
  return state

def probeProcess (target : ProcessTarget) : Program ProcessObservation := do
  let answer ← draw
  match answer.probe target with
  | .ok process => pure process
  | .error error => do
      changeSampler (fun sampler =>
        { sampler with history := sampler.history ++ [.failed error] })
      fail error

def enqueueTerminal (success : Bool) : Program Unit := do
  let _ ← lockWorking
  changeSampler (fun sampler => sampler.enqueue
    { kind := if success = true then "terminal-success"
        else "terminal-failure"
      process := none })

def stopSampler : Program Unit := do
  let _ ← lockState
  changeSampler (fun sampler =>
    { sampler with state := { sampler.state with stop := true } })

def setProcess (role : String) (detail : Json) : Program Unit := do
  let pid ← ofExcept (require ((detail.get "pid").bind Json.asU64)
    "resource sampler child-start event is missing numeric pid")
  ofExcept (ensure (pid ≤ u32Max)
    ("resource sampler child pid does not fit u32: out of range integral " ++
      "type conversion attempted"))
  let target : ProcessTarget :=
    { pid := UInt32.ofNat pid
      role := role }
  let process ← probeProcess target
  let _ ← lockWorking
  changeSampler (fun sampler =>
    { sampler with
      state := { sampler.state with active := some target } }.enqueue
        { kind := "process-role-start", process := some process })

def clearProcess : Program Unit := do
  let _ ← lockWorking
  changeSampler (fun sampler =>
    { sampler with state := { sampler.state with active := none } })

def probeActive : Option ProcessTarget →
    Program (Option ProcessObservation)
  | none => pure none
  | some target => do
      let process ← probeProcess target
      return some process

/-- The lock is released while the process is probed. -/
def enqueueCurrentBoundary (kind : String) : Program Unit := do
  let state ← lockWorking
  let process ← probeActive state.active
  let _ ← lockWorking
  changeSampler (fun sampler =>
    sampler.enqueue { kind := kind, process := process })

def enqueueBoundary (kind : String) : Program Unit := do
  let _ ← lockWorking
  changeSampler (fun sampler =>
    sampler.submit { kind := kind, process := none })

/-- What the observer does in a phase. -/
inductive SamplingAction where
  | boundary (kind : String)
  | process (role : String)
  | current (kind : String)
  | clear
  | nothing
  deriving DecidableEq

def samplingAction (workloadRole phase : String) : SamplingAction :=
  match phase with
  | "iteration-started" => .boundary "sampler-start"
  | "workload-child-started" => .process workloadRole
  | "plain-relaunch-child-started" => .process "plain-relaunch"
  | "recovery-child-started" => .process "recovery"
  | "continuation-child-started" => .process "continuation"
  | "verification-child-started" => .process "verifier"
  | "crash-marker-observed" => .current "crash-marker-observed"
  | "post-crash-state-observed" => .boundary "post-crash-state"
  | "workload-child-completed" => .clear
  | "crash-child-reaped" => .clear
  | "plain-relaunch-child-completed" => .clear
  | "recovery-child-completed" => .clear
  | "continuation-child-completed" => .clear
  | "verification-child-completed" => .clear
  | "cleanup-completed" => .boundary "post-cleanup"
  | _ => .nothing

def samplingRecord (workloadRole : String) : IterationObserver :=
  fun phase detail => do
    let _ ← lockWorking
    match samplingAction workloadRole phase with
    | .boundary kind => enqueueBoundary kind
    | .process role => setProcess role detail
    | .current kind => enqueueCurrentBoundary kind
    | .clear => clearProcess
    | .nothing => pure ()

def workloadRole (failure : EnduranceFailure) : String :=
  if failure = .clean then "clean-workload" else "crash-target"

/-- The event first, then the sampler. -/
def combinedObserver (setting : Setting) (store : EvidenceStore)
    (sequence : Nat) (role : String) : IterationObserver :=
  fun phase detail => do
    store.recordEvent setting sequence phase detail
    samplingRecord role phase detail

/-! ### The iteration -/

/-- Wait for the sampler to end.  If it never does, the program waits until it
is killed. -/
def joinSampler : Program Nat := do
  let answer ← yieldToSampler
  match answer.fault with
  | some error => fail s!"resource sampler task join failed: {error}"
  | none => do
      let world ← CrashRun.state
      match world.sampler.phase with
      | .finished result => ofExcept result
      | _ => kill

/-- An iteration counts as executed only if the sampler ended well too. -/
def selectOutcome {α : Type} (execution : Except String α)
    (terminal : Except String Unit) (joined : Except String Nat) :
    Except String (α × Nat) :=
  match terminal, joined with
  | .ok _, .ok samplesWritten =>
      match execution with
      | .ok result => .ok (result, samplesWritten)
      | .error error => .error error
  | .error samplingError, _ => .error (combine samplingError)
  | .ok _, .error samplingError => .error (combine samplingError)
where
  combine (samplingError : String) : String :=
    match execution with
    | .ok _ => samplingError
    | .error executionError =>
        s!"resource sampler failed: {samplingError}; bounded iteration " ++
          s!"also failed: {executionError}"

/-- Enqueue the terminal boundary, stop the sampler, wait for it and choose the
outcome. -/
def settleIteration {α : Type} (execution : Except String α) :
    Program (Except String (α × Nat)) := do
  let terminal ← attempt (enqueueTerminal
    (match execution with
      | .ok _ => true
      | .error _ => false))
  stopSampler
  let joined ← attempt joinSampler
  return selectOutcome execution terminal joined

structure SampledRecordedIterationOutput where
  recorded : RecordedIterationOutput
  samplesPath : String
  sampleIntervalMillis : Nat
  samplesWritten : Nat

section SampledIteration

variable (setting : Setting) (campaignId : String) (sequence : Nat)
variable (intervalMillis : Nat)

/-- Record the failure of an iteration, then fail with it. -/
def failIteration {α : Type} (store : EvidenceStore) (error : String) :
    Program α := do
  finalizeFailure setting store sequence error
  fail error

/-- The part that runs beside the sampler, up to the choice of the outcome. -/
def observeIteration (store : EvidenceStore) (role : String) :
    Program (Except String (RecordedExecutionResult × Nat)) := do
  changeSampler (fun _ => .spawn
    { samplesPath := setting.samplesPath campaignId
      campaignId := campaignId
      sequence := sequence
      intervalMillis := intervalMillis })
  let execution ← attempt (executeRecordedExecution setting.databaseUrl
    campaignId sequence (combinedObserver setting store sequence role))
  settleIteration execution

def executeSampledRecordedIteration :
    Program SampledRecordedIterationOutput := do
  ofExcept (ensure (intervalMillis ≤ u64Max)
    ("sample interval does not fit u64: out of range integral type " ++
      "conversion attempted"))
  ofExcept (ensure (minSampleIntervalMillis ≤ intervalMillis ∧
      intervalMillis ≤ maxSampleIntervalMillis)
    (s!"sample interval must be between {minSampleIntervalMillis} and " ++
      s!"{maxSampleIntervalMillis} milliseconds"))
  let plan ← ofExcept (planIteration campaignId sequence)
  let store ← EvidenceStore.open setting campaignId
  let connected ← attempt (perform
    "resource sampler PostgreSQL connection failed")
  match connected with
  | .error error => failIteration setting sequence store error
  | .ok _ => do
      let outcome ← observeIteration setting campaignId sequence
        intervalMillis store (workloadRole plan.failure)
      match outcome with
      | .error error => failIteration setting sequence store error
      | .ok (execution, samplesWritten) => do
          let recorded ← finalizeSuccess setting store campaignId sequence
            execution
          return {
            recorded := recorded
            samplesPath := setting.samplesPath campaignId
            sampleIntervalMillis := intervalMillis
            samplesWritten := samplesWritten }

end SampledIteration

/-! ### The run-next step -/

structure RunNextResult where
  campaignId : String
  preExecution : ResumeStatus
  selectedSequence : Option Nat
  selectedPlan : Option IterationPlan
  execution : Option SampledRecordedIterationOutput

/-- The checks on a ready status, and the sequence and plan it selects. -/
def selectPlan (preExecution : ResumeStatus) (campaignId : String) :
    Except String (Nat × IterationPlan) := do
  let sequence ← require preExecution.nextSequence
    "ready resume status is missing next_sequence"
  let plan ← require preExecution.nextPlan
    "ready resume status is missing next_plan"
  ensure (plan.sequence = sequence)
    (s!"ready resume status disagrees on next sequence: status={sequence} " ++
      s!"plan={plan.sequence}")
  ensure (plan.campaignId = campaignId)
    (s!"ready resume plan campaign {Text.debug plan.campaignId} disagrees " ++
      s!"with requested campaign {Text.debug campaignId}")
  return (sequence, plan)

def executeSelectedWith (preExecution : ResumeStatus) (campaignId : String)
    (executor : IterationPlan → Program SampledRecordedIterationOutput) :
    Program RunNextResult := do
  ofExcept (ensure (preExecution.campaignId = campaignId)
    (s!"resume status campaign {Text.debug preExecution.campaignId} " ++
      s!"disagrees with requested campaign {Text.debug campaignId}"))
  if preExecution.state ≠ .ready then
    return {
      campaignId := campaignId
      preExecution := preExecution
      selectedSequence := none
      selectedPlan := none
      execution := none }
  else do
    let (sequence, plan) ← ofExcept (selectPlan preExecution campaignId)
    let execution ← executor plan
    return {
      campaignId := campaignId
      preExecution := preExecution
      selectedSequence := some sequence
      selectedPlan := some plan
      execution := some execution }

def executeSelectedSampledRecordedIteration (setting : Setting)
    (campaignId : String) (preExecution : ResumeStatus)
    (intervalMillis : Nat) : Program RunNextResult :=
  executeSelectedWith preExecution campaignId (fun plan =>
    executeSampledRecordedIteration setting campaignId plan.sequence
      intervalMillis)

def executeNextSampledRecordedIteration (setting : Setting)
    (campaignId : String) (intervalMillis : Nat) : Program RunNextResult := do
  let disk ← readDisk
  let preExecution ← ofExcept (reconcileResumeStatus setting campaignId disk)
  executeSelectedSampledRecordedIteration setting campaignId preExecution
    intervalMillis

end Endurance
