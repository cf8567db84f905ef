/-
The orchestration of one iteration: a clean run, or a crash in the middle of a
run with its recovery, each reported phase by phase to an observer.

Standard output, the marker file and the database are the environment's; only
what the observer makes of the phases is durable here.
-/

import OxideWorkloads.Endurance.Evidence

namespace Endurance

open Foundation
open Foundation.CrashRun
open Foundation.Checks

/-- An observer is told each phase and its detail. -/
abbrev IterationObserver := String → Json → Program Unit

def canonicalCrashChunk : Nat := 3

/-! ### Commands -/

def readerSizes : EnduranceReader → Option Nat × Option Nat
  | .cursor => (some canonicalCursorFetchSize, none)
  | .paging => (none, some canonicalPagingPageSize)

def buildRunCommand (databaseUrl : String) (plan : IterationPlan) :
    List String :=
  ["run", "--database-url", databaseUrl, "--import-name", plan.importName,
    "--chunk-size", Text.decimal canonicalChunkSize, "--reader",
    plan.reader.asStr] ++
  match plan.reader with
  | .cursor => ["--fetch-size", Text.decimal canonicalCursorFetchSize]
  | .paging => ["--page-size", Text.decimal canonicalPagingPageSize]

def buildRecoverCommand (databaseUrl : String) (plan : IterationPlan) :
    List String :=
  ["recover", "--database-url", databaseUrl, "--import-name", plan.importName,
    "--reader", plan.reader.asStr]

def buildVerifyCommand (databaseUrl : String) (plan : IterationPlan) :
    List String :=
  ["verify", "--database-url", databaseUrl, "--import-name", plan.importName]

/-! ### Children -/

def debugCode : Option Int32 → String
  | none => "None"
  | some code => s!"Some({code.toInt})"

def pidDetail (pid : UInt32) : Json :=
  .object [("pid", .ofNat pid.toNat)]

/-- Start a child, wait for it, and report both. -/
def runChild (command : List String) (phase : String)
    (observer : IterationObserver) (startedPhase completedPhase : String) :
    Program (ChildProcessResult × ChildOutput) := do
  let spawned ← perform s!"spawn postgres-postgres {phase} child"
  let pid ← ofExcept (require spawned.pid
    s!"postgres-postgres {phase} child has no process id")
  observer startedPhase (pidDetail pid)
  let waited ← perform s!"wait for postgres-postgres {phase} child"
  let output := waited.output phase command
  let process : ChildProcessResult :=
    { pid := pid
      success := output.status.success
      code := output.status.code
      status := output.status.text }
  observer completedPhase process.toJson
  return (process, output)

/-- How a child ended, for an error text. -/
def childReport (process : ChildProcessResult) (output : ChildOutput) :
    String :=
  s!"pid={process.pid.toNat} status={process.status} " ++
    s!"code={debugCode process.code}\nstdout={output.stdout}\n" ++
    s!"stderr={output.stderr}"

def requireSuccess (phase : String) (process : ChildProcessResult)
    (output : ChildOutput) : Except String Unit :=
  ensure (process.success = true)
    (s!"{phase} child failed: " ++ childReport process output)

def requireFailure (phase : String) (process : ChildProcessResult)
    (output : ChildOutput) : Except String Unit :=
  ensure (process.success = false)
    (s!"{phase} unexpectedly succeeded: " ++ childReport process output)

/-- The rows of one iteration are deleted, and no others. -/
def cleanupBusiness (importName : String) : Program UInt64 := do
  ofExcept (validateEnduranceImportName importName)
  let answer ← perform "delete business rows"
  return answer.deletedRows

def cleanupDetail (plan : IterationPlan) (deletedRows : UInt64) : Json :=
  .object
    [("deleted_rows", .ofNat deletedRows.toNat),
      ("import_name", .string plan.importName)]

/-! ### Clean iterations -/

section Orchestration

variable (databaseUrl campaignId : String) (sequence : Nat)
variable (observer : IterationObserver)

def executeCleanIterationObserved : Program CleanIterationResult := do
  let plan ← ofExcept (planIteration campaignId sequence)
  ofExcept (ensure (plan.failure = .clean)
    (s!"sequence {sequence} is reserved for {plan.failure.name} " ++
      "crash/recovery orchestration and cannot run through the clean " ++
      "Slice B path"))
  observer "iteration-planned" plan.toJson
  observer "iteration-started" (.object
    [("import_name", .string plan.importName), ("mode", .string "clean")])
  let (run, runOutput) ← runChild (buildRunCommand databaseUrl plan) "run"
    observer "workload-child-started" "workload-child-completed"
  ofExcept (requireSuccess "run" run runOutput)
  let (verification, verifyOutput) ← runChild
    (buildVerifyCommand databaseUrl plan) "verify" observer
    "verification-child-started" "verification-child-completed"
  ofExcept (requireSuccess "verify" verification verifyOutput)
  let deletedRows ← cleanupBusiness plan.importName
  observer "cleanup-completed" (cleanupDetail plan deletedRows)
  return {
    campaignId := plan.campaignId
    sequence := plan.sequence
    reader := plan.reader
    importName := plan.importName
    chunkSize := canonicalChunkSize
    fetchSize := (readerSizes plan.reader).1
    pageSize := (readerSizes plan.reader).2
    run := run
    verification := verification
    cleanupDeletedRows := deletedRows }

/-! ### Crash iterations -/

/-- The failure mode, the marker boundary and the number of commits that a
planned crash must show. -/
def crashContract (failure : EnduranceFailure) :
    Except String (String × String × Nat) :=
  match failure with
  | .beforeCommit =>
      .ok ("during-write", "writer during-write", canonicalCrashChunk - 1)
  | .afterCommit =>
      .ok ("after-business-commit", "after-business-commit",
        canonicalCrashChunk)
  | .clean =>
      .error (s!"sequence {sequence} is clean and cannot run through the " ++
        "crash/recovery Slice C path")

structure PauseMarker where
  pid : UInt32
  boundary : String

/-- The marker in the text of its file, unless the file is still incomplete. -/
def parseMarker (expectedBoundary contents : String) :
    Option (Except String PauseMarker) :=
  match Text.firstTwoLines contents with
  | none => none
  | some (pidText, boundary) =>
      match Text.parseUnsigned u32Max (Text.trim pidText) with
      | none => none
      | some pid =>
          if boundary = expectedBoundary then
            some (.ok
              { pid := UInt32.ofNat pid
                boundary := boundary })
          else
            some (.error ("pause marker boundary mismatch: expected " ++
              s!"{expectedBoundary}, got {boundary}"))

/-- Poll the marker file and the child.  The polls end with the deadline. -/
def waitForPauseMarker (markerPath expectedBoundary : String) :
    List MarkerPoll → Except String PauseMarker
  | [] => .error s!"pause marker {markerPath} did not appear within 30s"
  | poll :: rest =>
      match poll.contents with
      | some (.error error) =>
          .error (s!"read pause marker {markerPath}: " ++ error)
      | some (.ok contents) =>
          match parseMarker expectedBoundary contents with
          | some result => result
          | none => waitForExit poll rest
      | none => waitForExit poll rest
where
  waitForExit (poll : MarkerPoll) (rest : List MarkerPoll) :
      Except String PauseMarker :=
    match poll.exited with
    | .error error =>
        .error ("poll crash child while waiting for pause marker: " ++ error)
    | .ok (some status) =>
        .error ("crash child exited before semantic pause marker " ++
          s!"appeared: status={status}")
    | .ok none => waitForPauseMarker markerPath expectedBoundary rest

def markerPath : Program String := do
  let answer ← draw
  match answer.nanos with
  | none => fail "system clock is before UNIX epoch"
  | some nonce =>
      pure (s!"postgres-postgres-endurance-{campaignId}-{sequence}-" ++
        s!"{answer.processId.toNat}-{nonce}.marker")

/-- The crash child is terminated before an error is returned. -/
def orTerminate {α : Type} (program : Program α) : Program α := do
  match ← attempt program with
  | .ok value => pure value
  | .error error => do
      let _ ← draw
      fail error

def requireSigkill (process : CrashProcessResult) (output : ChildOutput) :
    Except String Unit :=
  ensure (process.success = false ∧ process.signal = some 9)
    ("crash child was not terminated by external SIGKILL: " ++
      s!"pid={process.pid.toNat} status={process.status} " ++
      s!"code={debugCode process.code} signal={debugCode process.signal}\n" ++
      s!"stdout={output.stdout}\nstderr={output.stderr}")

def observeCrashState (importName : String) (expectedRows : Int) :
    Program CrashStateSnapshot := do
  let answer ← perform "observe crash state"
  return answer.crashState importName expectedRows

/-- The statuses of an execution that needs recovery. -/
def recoveryRequired (status : String) : Bool :=
  status = "STARTED" || status = "STARTING" || status = "UNKNOWN"

def requireCrashState (state : CrashStateSnapshot) (expectedCommits : Nat)
    (expectedPosition : Int) : Except String Unit := do
  ensure (recoveryRequired state.executionStatus = true)
    ("crashed execution unexpectedly reached terminal status " ++
      state.executionStatus)
  ensure (state.commitCount.toInt = expectedCommits)
    (s!"crash checkpoint commit count mismatch: expected " ++
      s!"{expectedCommits}, got {state.commitCount.toInt}")
  ensure (state.checkpointPosition.toInt = expectedPosition)
    (s!"crash checkpoint position mismatch: expected " ++
      s!"{expectedPosition}, got {state.checkpointPosition.toInt}")
  ensure (state.businessRows.toInt = expectedPosition)
    (s!"crash business-row count mismatch: expected " ++
      s!"{expectedPosition}, got {state.businessRows.toInt}")

/-- The first half of a crash iteration: up to the reaped child. -/
def crashAndReap (failureMode boundary : String) :
    Program CrashProcessResult := do
  let path ← markerPath campaignId sequence
  let spawned ← perform "spawn postgres-postgres crash child"
  let pid ← ofExcept (require spawned.pid
    "postgres-postgres crash child has no process id")
  orTerminate (observer "workload-child-started" (.object
    [("fail_at_chunk", .ofNat canonicalCrashChunk),
      ("failure_mode", .string failureMode),
      ("pid", .ofNat pid.toNat)]))
  let polls ← draw
  let marker ← orTerminate (ofExcept
    (waitForPauseMarker path boundary (polls.markerPolls boundary pid)))
  orTerminate (ofExcept (ensure (marker.pid = pid)
    (s!"pause marker pid {marker.pid.toNat} does not match spawned crash " ++
      s!"child pid {pid.toNat}")))
  orTerminate (observer "crash-marker-observed" (.object
    [("boundary", .string marker.boundary),
      ("pid", .ofNat marker.pid.toNat)]))
  let _ ← perform "deliver external SIGKILL to paused workload child"
  orTerminate (observer "sigkill-delivered" (.object
    [("pid", .ofNat pid.toNat), ("signal", .ofNat 9)]))
  let reaped ← perform "reap externally killed workload child"
  let output := reaped.crashOutput
  let crash : CrashProcessResult :=
    { pid := pid
      markerPid := marker.pid
      markerBoundary := marker.boundary
      success := output.status.success
      code := output.status.code
      signal := output.status.signal
      status := output.status.text
      reaped := true }
  observer "crash-child-reaped" crash.toJson
  ofExcept (requireSigkill crash output)
  return crash

def executeCrashIterationObserved : Program CrashIterationResult := do
  let plan ← ofExcept (planIteration campaignId sequence)
  let (failureMode, boundary, expectedCommits) ← ofExcept
    (crashContract sequence plan.failure)
  observer "iteration-planned" plan.toJson
  observer "iteration-started" (.object
    [("fail_at_chunk", .ofNat canonicalCrashChunk),
      ("failure", .string plan.failure.name),
      ("import_name", .string plan.importName),
      ("mode", .string "crash-recovery")])
  let crash ← crashAndReap campaignId sequence observer failureMode boundary
  let expectedRows : Int := expectedCommits * canonicalChunkSize
  let postCrash ← observeCrashState plan.importName expectedRows
  ofExcept (requireCrashState postCrash expectedCommits expectedRows)
  observer "post-crash-state-observed" postCrash.toJson
  let (plainRelaunch, plainOutput) ← runChild
    (buildRunCommand databaseUrl plan) "plain relaunch" observer
    "plain-relaunch-child-started" "plain-relaunch-child-completed"
  ofExcept (requireFailure "plain relaunch" plainRelaunch plainOutput)
  let (recovery, recoveryOutput) ← runChild
    (buildRecoverCommand databaseUrl plan) "recover" observer
    "recovery-child-started" "recovery-child-completed"
  ofExcept (requireSuccess "recover" recovery recoveryOutput)
  let (continuation, continuationOutput) ← runChild
    (buildRunCommand databaseUrl plan) "continuation" observer
    "continuation-child-started" "continuation-child-completed"
  ofExcept (requireSuccess "continuation" continuation continuationOutput)
  let (verification, verifyOutput) ← runChild
    (buildVerifyCommand databaseUrl plan) "verify" observer
    "verification-child-started" "verification-child-completed"
  ofExcept (requireSuccess "verify" verification verifyOutput)
  let deletedRows ← cleanupBusiness plan.importName
  observer "cleanup-completed" (cleanupDetail plan deletedRows)
  return {
    campaignId := plan.campaignId
    sequence := plan.sequence
    reader := plan.reader
    failure := plan.failure
    importName := plan.importName
    chunkSize := canonicalChunkSize
    fetchSize := (readerSizes plan.reader).1
    pageSize := (readerSizes plan.reader).2
    failAtChunk := canonicalCrashChunk
    crash := crash
    postCrash := postCrash
    plainRelaunch := plainRelaunch
    recovery := recovery
    continuation := continuation
    verification := verification
    cleanupDeletedRows := deletedRows }

/-- The planned kind of iteration. -/
def executeRecordedExecution : Program RecordedExecutionResult := do
  let plan ← ofExcept (planIteration campaignId sequence)
  match plan.failure with
  | .clean => do
      let result ← executeCleanIterationObserved databaseUrl campaignId
        sequence observer
      return .clean result
  | .beforeCommit | .afterCommit => do
      let result ← executeCrashIterationObserved databaseUrl campaignId
        sequence observer
      return .crash result

end Orchestration

end Endurance
