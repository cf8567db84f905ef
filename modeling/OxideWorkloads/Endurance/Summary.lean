/-
The summary of a campaign: four scanners read the evidence again, as untyped
documents, and a list of reasons decides between accepted and rejected.

A scanner of the source pushes its violations on one list; here every check
returns the violations it pushes, and the lists are joined in the same order.
-/

import Mathlib.Data.String.Basic
import OxideWorkloads.Endurance.Campaign
import OxideWorkloads.Endurance.FailureNames
import OxideWorkloads.Foundation.SortedKeys

namespace Endurance

namespace Summary

open Foundation
open Foundation.CrashRun
open Foundation.LineLog (Bytes)
open Foundation.Checks
open Foundation.JsonGrammar (decodeUtf8)

def summarySchema : String := "oxide-batch-workloads.endurance-summary"

def canonicalMinimumBeforeCommitCrashes : Nat := 2
def canonicalMinimumAfterCommitCrashes : Nat := 2

structure SummaryAcceptancePolicy where
  minimumElapsed : Nat
  minimumCompletedIterations : Nat
  minimumBeforeCommitCrashes : Nat
  minimumAfterCommitCrashes : Nat
  deriving DecidableEq, Repr

def SummaryAcceptancePolicy.canonical : SummaryAcceptancePolicy :=
  { minimumElapsed := canonicalMinimumElapsed
    minimumCompletedIterations := canonicalMinimumCompletedIterations
    minimumBeforeCommitCrashes := canonicalMinimumBeforeCommitCrashes
    minimumAfterCommitCrashes := canonicalMinimumAfterCommitCrashes }

inductive SummaryVerdict where
  | accepted
  | rejected
  deriving DecidableEq, Repr

inductive SummaryReasonCode where
  | elapsedBelowMinimum
  | completedIterationsBelowMinimum
  | beforeCommitCrashCountBelowMinimum
  | afterCommitCrashCountBelowMinimum
  | evidenceSemanticMismatch
  | unexpectedTerminalFailureEvidence
  | durableResumeNotReady
  | missingDatabaseExecutionHistory
  | recoveryRequiredExecutionsRemain
  | noResourceSamples
  deriving DecidableEq, Repr

/-! ### Counts -/

structure ReaderCounts where
  cursor : Nat
  paging : Nat
  deriving DecidableEq, Repr

structure ExecutionCounts where
  clean : Nat
  beforeCommitCrash : Nat
  afterCommitCrash : Nat
  deriving DecidableEq, Repr

structure LifecycleCounts where
  terminalSuccess : Nat
  terminalFailure : Nat
  deriving DecidableEq, Repr

structure FailureCounts where
  total : Nat
  harnessEnvironment : Nat
  workloadChild : Nat
  verification : Nat
  deriving DecidableEq, Repr

/-- How an observed value moves; the source has one copy for each of its two
integer types. -/
structure Trend (α : Type) where
  first : Option α
  last : Option α
  minimum : Option α
  maximum : Option α
  delta : Option Int
  deriving DecidableEq, Repr

def Trend.default {α : Type} : Trend α :=
  { first := none
    last := none
    minimum := none
    maximum := none
    delta := none }

def Trend.observe {α : Type} [Min α] [Max α] (difference : α → α → Int)
    (value : α) (trend : Trend α) : Trend α :=
  let first := trend.first.getD value
  { first := some first
    last := some value
    minimum := some (trend.minimum.elim value (fun current =>
      min current value))
    maximum := some (trend.maximum.elim value (fun current =>
      max current value))
    delta := some (difference value first) }

/-- A difference that stays within 64 bits. -/
def saturatingSub (last first : Int) : Int :=
  max i64Min (min i64Max (last - first))

abbrev I64Trend := Trend Int
abbrev U64Trend := Trend Nat

def I64Trend.observe (value : Int) (trend : I64Trend) : I64Trend :=
  Trend.observe saturatingSub value trend

def U64Trend.observe (value : Nat) (trend : U64Trend) : U64Trend :=
  Trend.observe (fun last first => (last : Int) - first) value trend

structure MetadataResourceSummary where
  jobInstances : I64Trend
  jobExecutions : I64Trend
  stepExecutions : I64Trend
  jobInstanceTableBytes : I64Trend
  jobExecutionTableBytes : I64Trend
  stepExecutionTableBytes : I64Trend

structure ResourceSummary where
  sampleCount : Nat
  firstTimestampUnixNanosUtc : Option Nat
  lastTimestampUnixNanosUtc : Option Nat
  processObservations : Nat
  processUnavailableObservations : Nat
  peakRssBytesByRole : OrderedMap String Nat
  postgresTotalConnections : I64Trend
  postgresActiveConnections : I64Trend
  databaseSizeBytes : I64Trend
  oxideBatch : MetadataResourceSummary
  filesystemAvailableBytes : U64Trend

def ResourceSummary.default : ResourceSummary :=
  { sampleCount := 0
    firstTimestampUnixNanosUtc := none
    lastTimestampUnixNanosUtc := none
    processObservations := 0
    processUnavailableObservations := 0
    peakRssBytesByRole := .empty
    postgresTotalConnections := .default
    postgresActiveConnections := .default
    databaseSizeBytes := .default
    oxideBatch :=
      { jobInstances := .default
        jobExecutions := .default
        stepExecutions := .default
        jobInstanceTableBytes := .default
        jobExecutionTableBytes := .default
        stepExecutionTableBytes := .default }
    filesystemAvailableBytes := .default }

structure RecoveryRequiredExecution where
  executionId : String
  importName : String
  status : String
  deriving DecidableEq, Repr

/-- What the reconciliation with the database found. -/
structure DatabaseReconciliation where
  logicalIdentitiesChecked : Nat
  executionRowsObserved : Nat
  missingLogicalIdentities : List String
  recoveryRequiredExecutions : List RecoveryRequiredExecution
  deriving DecidableEq, Repr

/-! ### Access to a document -/

/-- The text of a pointer with these tokens. -/
def pointerText (tokens : List String) : String :=
  String.join (tokens.map (fun token => "/" ++ token))

def stringAt (value : Json) (pointer : List String) (source : String) :
    Except String String :=
  require ((value.pointer pointer).bind Json.asString)
    s!"{source} is missing string {pointerText pointer}"

def u64At (value : Json) (pointer : List String) (source : String) :
    Except String Nat :=
  require ((value.pointer pointer).bind Json.asU64)
    s!"{source} is missing nonnegative integer {pointerText pointer}"

def i64At (value : Json) (pointer : List String) (source : String) :
    Except String Int :=
  require ((value.pointer pointer).bind Json.asI64)
    s!"{source} is missing integer {pointerText pointer}"

def boolAt (value : Json) (pointer : List String) (source : String) :
    Except String Bool :=
  require ((value.pointer pointer).bind Json.asBool)
    s!"{source} is missing boolean {pointerText pointer}"

def validateCommon (value : Json) (expectedSchema campaignId : String)
    (source : String) : Except String Unit := do
  let schema ← stringAt value ["schema"] source
  ensure (schema = expectedSchema)
    (s!"{source} has schema {Text.debug schema}, expected " ++
      s!"{Text.debug expectedSchema}")
  let version ← u64At value ["schema_version"] source
  ensure (version = schemaVersion)
    (s!"{source} has schema version {version}, expected " ++
      s!"{schemaVersion}")
  let recordCampaignId ← stringAt value ["campaign_id"] source
  ensure (recordCampaignId = campaignId)
    (s!"{source} has campaign id {Text.debug recordCampaignId}, expected " ++
      s!"{Text.debug campaignId}")

def positiveSequence (value : Json) (source : String) :
    Except String Nat := do
  let sequence ← u64At value ["sequence"] source
  ensure (sequence ≠ 0) s!"{source} has invalid sequence zero"
  return sequence

/-- One line of a log. -/
def readLine (setting : Setting) (path : String) (lineNumber : Nat)
    (line : Bytes) : Except String Json := do
  let text ← require (decodeUtf8 line)
    (s!"read {path} line {lineNumber}: " ++
      "stream did not contain valid UTF-8")
  ensure (Text.isBlank text = false)
    s!"{path} line {lineNumber} is unexpectedly blank"
  context s!"parse {path} line {lineNumber}" (setting.serde.value.read line)

/-! ### The event log -/

def LifecycleCounts.addPhase (phase : String) (counts : LifecycleCounts) :
    LifecycleCounts :=
  if phase = terminalSuccessPhase then
    { counts with terminalSuccess := counts.terminalSuccess + 1 }
  else if phase = terminalFailurePhase then
    { counts with terminalFailure := counts.terminalFailure + 1 }
  else counts

/-- The phase of one event. -/
def scanEvent (setting : Setting) (path campaignId : String)
    (lineNumber : Nat) (line : Bytes) : Except String String := do
  let value ← readLine setting path lineNumber line
  let source := s!"{path} line {lineNumber}"
  validateCommon value eventSchema campaignId source
  let _ ← positiveSequence value source
  stringAt value ["phase"] source

def scanEventLines (setting : Setting) (path campaignId : String) :
    Nat → List Bytes → LifecycleCounts → Except String LifecycleCounts
  | _, [], counts => .ok counts
  | lineNumber, line :: rest, counts => do
      let phase ← scanEvent setting path campaignId lineNumber line
      scanEventLines setting path campaignId (lineNumber + 1) rest
        (counts.addPhase phase)

def scanEvents (setting : Setting) (path campaignId : String)
    (log : Option Bytes) : Except String LifecycleCounts := do
  let bytes ← require log
    s!"open {path}: No such file or directory (os error 2)"
  scanEventLines setting path campaignId 1 (LineLog.lines bytes)
    { terminalSuccess := 0, terminalFailure := 0 }

/-! ### The failure artifacts -/

/-- The files of a directory, which holds nothing else. -/
def directoryFiles (dir : String) (entries : Option Entries) :
    Except String (List (FileName × Bytes)) := do
  let listed ← require entries
    s!"read {dir}: No such file or directory (os error 2)"
  listed.mapM (fun entry => do
    let bytes ← require entry.2
      ("evidence entry is not a regular file: " ++
        joinPath dir entry.1.display)
    return (entry.1, bytes))

def FailureCounts.addClass (failureClass path : String)
    (counts : FailureCounts) : Except String FailureCounts :=
  let counted := { counts with total := counts.total + 1 }
  if failureClass = FailureClass.harnessEnvironment.name then
    .ok { counted with harnessEnvironment := counts.harnessEnvironment + 1 }
  else if failureClass = FailureClass.workloadChild.name then
    .ok { counted with workloadChild := counts.workloadChild + 1 }
  else if failureClass = FailureClass.verification.name then
    .ok { counted with verification := counts.verification + 1 }
  else
    .error s!"unknown durable failure class {Text.debug failureClass}: {path}"

def scanFailure (setting : Setting) (dir campaignId : String)
    (file : FileName × Bytes) (counts : FailureCounts) :
    Except String FailureCounts := do
  let path := joinPath dir file.1.display
  let sequence ← failureFileSequence path file.1
  let value ← context s!"parse {path}" (setting.serde.value.read file.2)
  validateCommon value failureSchema campaignId path
  let recorded ← positiveSequence value path
  ensure (recorded = sequence)
    s!"failure record sequence disagrees with canonical filename: {path}"
  let terminal ← stringAt value ["terminal"] path
  ensure (terminal = "failure")
    s!"failure artifact is not terminal=failure: {path}"
  let failureClass ← stringAt value ["failure_class"] path
  counts.addClass failureClass path

/-- Files in the order of their names; a name that is no text stands where its
display does. -/
def scanFailures (setting : Setting) (dir campaignId : String)
    (entries : Option Entries) : Except String FailureCounts := do
  let files ← directoryFiles dir entries
  (SortedKeys.sortBy (fun file => file.1.display) files).foldlM
    (fun counts file => scanFailure setting dir campaignId file counts)
    { total := 0
      harnessEnvironment := 0
      workloadChild := 0
      verification := 0 }

/-! ### The iterations -/

/-- What one iteration, or several, add to the summary. -/
structure IterationScan where
  readers : ReaderCounts
  executions : ExecutionCounts
  violations : List String
  deriving DecidableEq, Repr

def IterationScan.none : IterationScan :=
  { readers := { cursor := 0, paging := 0 }
    executions := { clean := 0, beforeCommitCrash := 0, afterCommitCrash := 0 }
    violations := [] }

def IterationScan.add (scan found : IterationScan) : IterationScan :=
  { readers :=
      { cursor := scan.readers.cursor + found.readers.cursor
        paging := scan.readers.paging + found.readers.paging }
    executions :=
      { clean := scan.executions.clean + found.executions.clean
        beforeCommitCrash := scan.executions.beforeCommitCrash +
          found.executions.beforeCommitCrash
        afterCommitCrash := scan.executions.afterCommitCrash +
          found.executions.afterCommitCrash }
    violations := scan.violations ++ found.violations }

/-- The violation of a condition that does not hold. -/
def violationUnless (condition : Prop) [Decidable condition] (violation : String) :
    List String :=
  if condition then [] else [violation]

def isRecoveryRequiredStatus (status : String) : Bool :=
  let upper := String.ofList (status.toList.map Char.toUpper)
  upper = "STARTING" || upper = "STARTED" || upper = "STOPPING" ||
    upper = "UNKNOWN"

def validateChildSuccess (value : Json) (pointer : List String)
    (expected : Bool) (sequence : Nat) (label source : String) :
    Except String (List String) := do
  let actual ← boolAt value pointer source
  return violationUnless (actual = expected)
    s!"sequence {sequence}: {label} success={actual} expected {expected}"

def judgeClean (value : Json) (plan : IterationPlan) (sequence : Nat)
    (source : String) : Except String (ExecutionCounts × List String) := do
  let run ← validateChildSuccess value
    ["execution", "result", "run", "success"] true sequence "workload run"
    source
  let verification ← validateChildSuccess value
    ["execution", "result", "verification", "success"] true sequence
    "verification" source
  let _ ← u64At value ["execution", "result", "cleanup_deleted_rows"] source
  return (
    { clean := 1
      beforeCommitCrash := 0
      afterCommitCrash := 0 },
    violationUnless (plan.failure = .clean)
        (s!"sequence {sequence}: clean execution occupies scheduled " ++
          s!"{plan.failure.name} slot") ++
      run ++ verification)

/-- The crash counts; a crash of another kind than planned is not counted. -/
def crashCounts (actual : String) (planned : EnduranceFailure) :
    ExecutionCounts :=
  { clean := 0
    beforeCommitCrash :=
      if actual = "before-commit" ∧ planned = .beforeCommit then 1 else 0
    afterCommitCrash :=
      if actual = "after-commit" ∧ planned = .afterCommit then 1 else 0 }

def judgeCrash (value : Json) (plan : IterationPlan) (sequence : Nat)
    (source : String) : Except String (ExecutionCounts × List String) := do
  let actual ← stringAt value ["execution", "result", "failure"] source
  let crash ← validateChildSuccess value
    ["execution", "result", "crash", "success"] false sequence
    "SIGKILL target" source
  let reaped ← boolAt value ["execution", "result", "crash", "reaped"] source
  let signal ← i64At value ["execution", "result", "crash", "signal"] source
  let relaunch ← validateChildSuccess value
    ["execution", "result", "plain_relaunch", "success"] false sequence
    "plain relaunch" source
  let recovery ← validateChildSuccess value
    ["execution", "result", "recovery", "success"] true sequence
    "recovery" source
  let continuation ← validateChildSuccess value
    ["execution", "result", "continuation", "success"] true sequence
    "continuation" source
  let verification ← validateChildSuccess value
    ["execution", "result", "verification", "success"] true sequence
    "verification" source
  let _ ← u64At value ["execution", "result", "cleanup_deleted_rows"] source
  let status ← stringAt value
    ["execution", "result", "post_crash", "execution_status"] source
  return (crashCounts actual plan.failure,
    violationUnless (actual = plan.failure.name)
        (s!"sequence {sequence}: crash failure {Text.debug actual} " ++
          "disagrees with deterministic plan " ++
          Text.debug plan.failure.name) ++
      violationUnless (plan.failure ≠ .clean)
        (s!"sequence {sequence}: crash execution occupies a clean " ++
          "schedule slot") ++
      crash ++
      violationUnless (reaped = true)
        (s!"sequence {sequence}: crashed child was not recorded as " ++
          "reaped") ++
      violationUnless (signal = 9)
        (s!"sequence {sequence}: planned hard crash is not recorded as " ++
          "SIGKILL(9)") ++
      relaunch ++ recovery ++ continuation ++ verification ++
      violationUnless (isRecoveryRequiredStatus status = true)
        (s!"sequence {sequence}: post-crash status {Text.debug status} " ++
          "is not recovery-required"))

def judgeExecution (value : Json) (plan : IterationPlan) (sequence : Nat)
    (source : String) : Except String (ExecutionCounts × List String) := do
  let kind ← stringAt value ["execution", "kind"] source
  if kind = "clean" then judgeClean value plan sequence source
  else if kind = "crash" then judgeCrash value plan sequence source
  else
    return (
      { clean := 0
        beforeCommitCrash := 0
        afterCommitCrash := 0 },
      [s!"sequence {sequence}: unsupported recorded execution kind " ++
        Text.debug kind])

/-- What the document of one iteration adds. -/
def judgeIteration (value : Json) (campaignId : String) (sequence : Nat)
    (source : String) : Except String IterationScan := do
  let plan ← planIteration campaignId sequence
  let resultSequence ←
    u64At value ["execution", "result", "sequence"] source
  let reader ← stringAt value ["execution", "result", "reader"] source
  let importName ←
    stringAt value ["execution", "result", "import_name"] source
  let (executions, violations) ← judgeExecution value plan sequence source
  return {
    readers :=
      { cursor := if reader = "cursor" then 1 else 0
        paging := if reader = "paging" then 1 else 0 }
    executions := executions
    violations :=
      violationUnless (resultSequence = sequence)
          (s!"sequence {sequence}: execution result sequence is " ++
            s!"{resultSequence}") ++
        violationUnless (reader = "cursor" ∨ reader = "paging")
          (s!"sequence {sequence}: unsupported reader " ++
            Text.debug reader) ++
        violationUnless (reader = plan.reader.asStr)
          (s!"sequence {sequence}: reader {Text.debug reader} disagrees " ++
            s!"with deterministic plan {Text.debug plan.reader.asStr}") ++
        violationUnless (importName = plan.importName)
          (s!"sequence {sequence}: import_name {Text.debug importName} " ++
            s!"disagrees with {Text.debug plan.importName}") ++
        violations }

/-- The content of a file of the iteration directory. -/
def readFile (path name : String) (entries : Entries) :
    Except String Bytes :=
  match fileContent name entries with
  | some bytes => .ok bytes
  | none =>
      if hasEntry name entries = true then
        .error s!"parse {path}: Is a directory (os error 21)"
      else .error s!"open {path}: No such file or directory (os error 2)"

def scanIteration (setting : Setting) (dir campaignId : String)
    (entries : Entries) (sequence : Nat) : Except String IterationScan := do
  let path := joinPath dir (iterationFileName sequence)
  let bytes ← readFile path (iterationFileName sequence) entries
  let value ← context s!"parse {path}" (setting.serde.value.read bytes)
  validateCommon value iterationSchema campaignId path
  let recorded ← positiveSequence value path
  ensure (recorded = sequence)
    s!"iteration record sequence disagrees with canonical filename: {path}"
  let terminal ← stringAt value ["terminal"] path
  ensure (terminal = "success")
    s!"iteration singleton is not terminal=success: {path}"
  judgeIteration value campaignId sequence path

def scanSequences (setting : Setting) (dir campaignId : String)
    (entries : Entries) :
    List Nat → IterationScan → Except String IterationScan
  | [], scan => .ok scan
  | sequence :: rest, scan => do
      let found ← scanIteration setting dir campaignId entries sequence
      scanSequences setting dir campaignId entries rest (scan.add found)

def scanIterations (setting : Setting) (dir campaignId : String)
    (entries : Entries) (frontier : Nat) : Except String IterationScan :=
  scanSequences setting dir campaignId entries (List.range' 1 frontier) .none

/-! ### The samples -/

def observeProcess (process : Json) (source : String)
    (summary : ResourceSummary) : Except String ResourceSummary := do
  let role ← stringAt process ["role"] source
  let rss := (process.get "rss_bytes").bind Json.asU64
  let unavailable :=
    (process.get "unavailable_reason").any (fun reason => !reason.isNull) ||
      rss.isNone
  return {
    summary with
    processObservations := summary.processObservations + 1
    processUnavailableObservations :=
      if unavailable = true then summary.processUnavailableObservations + 1
      else summary.processUnavailableObservations
    peakRssBytesByRole :=
      match rss with
      | some bytes => summary.peakRssBytesByRole.update role bytes (max bytes)
      | none => summary.peakRssBytesByRole }

def observeMetadata (value : Json) (source : String)
    (summary : MetadataResourceSummary) :
    Except String MetadataResourceSummary := do
  let jobInstances ← i64At value ["oxide_batch", "job_instances"] source
  let jobExecutions ← i64At value ["oxide_batch", "job_executions"] source
  let stepExecutions ← i64At value ["oxide_batch", "step_executions"] source
  let jobInstanceTableBytes ←
    i64At value ["oxide_batch", "job_instance_table_bytes"] source
  let jobExecutionTableBytes ←
    i64At value ["oxide_batch", "job_execution_table_bytes"] source
  let stepExecutionTableBytes ←
    i64At value ["oxide_batch", "step_execution_table_bytes"] source
  return {
    jobInstances := I64Trend.observe jobInstances summary.jobInstances
    jobExecutions := I64Trend.observe jobExecutions summary.jobExecutions
    stepExecutions := I64Trend.observe stepExecutions summary.stepExecutions
    jobInstanceTableBytes :=
      I64Trend.observe jobInstanceTableBytes summary.jobInstanceTableBytes
    jobExecutionTableBytes :=
      I64Trend.observe jobExecutionTableBytes summary.jobExecutionTableBytes
    stepExecutionTableBytes :=
      I64Trend.observe stepExecutionTableBytes
        summary.stepExecutionTableBytes }

def observeSample (value : Json) (timestamp : Nat) (source : String)
    (summary : ResourceSummary) : Except String ResourceSummary := do
  let counted :=
    { summary with
      sampleCount := summary.sampleCount + 1
      firstTimestampUnixNanosUtc :=
        some (summary.firstTimestampUnixNanosUtc.getD timestamp)
      lastTimestampUnixNanosUtc := some timestamp }
  let observed ←
    match (value.get "process").filter (fun process => !process.isNull) with
    | some process => observeProcess process source counted
    | none => .ok counted
  let total ← i64At value ["postgres", "total_connections"] source
  let active ← i64At value ["postgres", "active_connections"] source
  let size ← i64At value ["postgres", "database_size_bytes"] source
  let oxideBatch ← observeMetadata value source observed.oxideBatch
  let available ← u64At value ["filesystem", "available_bytes"] source
  return {
    observed with
    postgresTotalConnections :=
      I64Trend.observe total observed.postgresTotalConnections
    postgresActiveConnections :=
      I64Trend.observe active observed.postgresActiveConnections
    databaseSizeBytes := I64Trend.observe size observed.databaseSizeBytes
    oxideBatch := oxideBatch
    filesystemAvailableBytes :=
      U64Trend.observe available observed.filesystemAvailableBytes }

def scanSampleLines (setting : Setting) (path campaignId : String) :
    Nat → List Bytes → Option Nat → ResourceSummary →
      Except String ResourceSummary
  | _, [], _, summary => .ok summary
  | lineNumber, line :: rest, previous, summary => do
      let value ← readLine setting path lineNumber line
      let source := s!"{path} line {lineNumber}"
      validateCommon value sampleSchema campaignId source
      let _ ← positiveSequence value source
      let timestamp ← u64At value ["timestamp_unix_nanos_utc"] source
      ensure (previous.any (fun earlier => timestamp < earlier) = false)
        s!"{source} timestamp moved backwards"
      let observed ← observeSample value timestamp source summary
      scanSampleLines setting path campaignId (lineNumber + 1) rest
        (some timestamp) observed

def scanSamples (setting : Setting) (path campaignId : String)
    (log : Option Bytes) : Except String ResourceSummary :=
  match log with
  | none => .ok .default
  | some bytes =>
      scanSampleLines setting path campaignId 1 (LineLog.lines bytes) none
        .default

/-! ### The snapshot -/

structure EvidenceSnapshot where
  campaign : CampaignRecord
  resume : ResumeStatus
  readers : ReaderCounts
  executions : ExecutionCounts
  lifecycle : LifecycleCounts
  failures : FailureCounts
  resources : ResourceSummary
  semanticViolations : List String

/-- The scanners compared with each other. -/
def lifecycleViolations (lifecycle : LifecycleCounts)
    (failures : FailureCounts) (frontier : Nat) : List String :=
  violationUnless (lifecycle.terminalSuccess = frontier)
      (s!"terminal-success event count {lifecycle.terminalSuccess} does " ++
        s!"not equal durable frontier {frontier}") ++
    violationUnless (lifecycle.terminalFailure = failures.total)
      (s!"terminal-failure event count {lifecycle.terminalFailure} does " ++
        s!"not equal failure artifact count {failures.total}")

def collectEvidence (setting : Setting) (campaignId : String)
    (disk : CampaignDir) : Except String EvidenceSnapshot := do
  let campaign ← loadExistingCampaignReadonly setting campaignId disk
  ensure (campaign.schema = campaignSchema ∧
      campaign.schemaVersion = schemaVersion)
    ("campaign metadata schema/version is not supported by summary " ++
      s!"finalization: {campaign.schema}/{campaign.schemaVersion}")
  let resume ← reconcileResumeStatus setting campaignId disk
  let lifecycle ← scanEvents setting (setting.eventsPath campaignId)
    campaignId disk.events
  let failures ← scanFailures setting (setting.failuresDir campaignId)
    campaignId disk.failures
  let scan ← scanIterations setting (setting.iterationsDir campaignId)
    campaignId (disk.iterations.getD []) resume.frontierSequence
  let resources ← scanSamples setting (setting.samplesPath campaignId)
    campaignId disk.samples
  return {
    campaign := campaign
    resume := resume
    readers := scan.readers
    executions := scan.executions
    lifecycle := lifecycle
    failures := failures
    resources := resources
    semanticViolations := scan.violations ++
      lifecycleViolations lifecycle failures resume.frontierSequence }

/-! ### The verdict -/

def pushReason (reason : SummaryReasonCode)
    (reasonCodes : List SummaryReasonCode) : List SummaryReasonCode :=
  if reason ∈ reasonCodes then reasonCodes else reasonCodes ++ [reason]

def pushWhen (condition : Prop) [Decidable condition]
    (reason : SummaryReasonCode) (reasonCodes : List SummaryReasonCode) :
    List SummaryReasonCode :=
  if condition then pushReason reason reasonCodes else reasonCodes

def reasonCodes (snapshot : EvidenceSnapshot)
    (policy : SummaryAcceptancePolicy)
    (elapsedNanos minimumElapsedNanos : Nat)
    (database : DatabaseReconciliation) : List SummaryReasonCode :=
  []
    |> pushWhen (elapsedNanos < minimumElapsedNanos) .elapsedBelowMinimum
    |> pushWhen (snapshot.resume.frontierSequence <
        policy.minimumCompletedIterations) .completedIterationsBelowMinimum
    |> pushWhen (snapshot.executions.beforeCommitCrash <
        policy.minimumBeforeCommitCrashes) .beforeCommitCrashCountBelowMinimum
    |> pushWhen (snapshot.executions.afterCommitCrash <
        policy.minimumAfterCommitCrashes) .afterCommitCrashCountBelowMinimum
    |> pushWhen (snapshot.semanticViolations ≠ []) .evidenceSemanticMismatch
    |> pushWhen (0 < snapshot.lifecycle.terminalFailure ∨
        0 < snapshot.failures.total) .unexpectedTerminalFailureEvidence
    |> pushWhen (snapshot.resume.state ≠ .ready) .durableResumeNotReady
    |> pushWhen (database.missingLogicalIdentities ≠ [])
        .missingDatabaseExecutionHistory
    |> pushWhen (database.recoveryRequiredExecutions ≠ [])
        .recoveryRequiredExecutionsRemain
    |> pushWhen (snapshot.resources.sampleCount = 0) .noResourceSamples

structure CampaignSummary where
  schema : String
  schemaVersion : Nat
  summaryPath : String
  campaign : CampaignRecord
  observedAtUnixNanosUtc : Nat
  elapsedNanos : Nat
  minimumElapsedNanos : Nat
  minimumCompletedIterations : Nat
  minimumBeforeCommitCrashes : Nat
  minimumAfterCommitCrashes : Nat
  finalFrontierSequence : Nat
  completedLogicalIterations : Nat
  readers : ReaderCounts
  executions : ExecutionCounts
  lifecycle : LifecycleCounts
  failures : FailureCounts
  resources : ResourceSummary
  finalResumeStatus : ResumeStatus
  evidenceSemanticViolations : List String
  database : DatabaseReconciliation
  reasonCodes : List SummaryReasonCode
  verdict : SummaryVerdict

/-! ### The document -/

section Serialization

/-- The names of the reasons in the document. -/
def SummaryReasonCode.name : SummaryReasonCode → String
  | .elapsedBelowMinimum => "elapsed-below-minimum"
  | .completedIterationsBelowMinimum => "completed-iterations-below-minimum"
  | .beforeCommitCrashCountBelowMinimum =>
      "before-commit-crash-count-below-minimum"
  | .afterCommitCrashCountBelowMinimum =>
      "after-commit-crash-count-below-minimum"
  | .evidenceSemanticMismatch => "evidence-semantic-mismatch"
  | .unexpectedTerminalFailureEvidence =>
      "unexpected-terminal-failure-evidence"
  | .durableResumeNotReady => "durable-resume-not-ready"
  | .missingDatabaseExecutionHistory => "missing-database-execution-history"
  | .recoveryRequiredExecutionsRemain => "recovery-required-executions-remain"
  | .noResourceSamples => "no-resource-samples"

def SummaryVerdict.name : SummaryVerdict → String
  | .accepted => "accepted"
  | .rejected => "rejected"

def resumeStateName : ResumeState → String
  | .ready => "ready"
  | .blockedFailure => "blocked-failure"
  | .blockedIncomplete => "blocked-incomplete"
  | .blockedInconsistentEvidence => "blocked-inconsistent-evidence"

/-- A plan inside a structure keeps the order of its fields. -/
def planJson (plan : IterationPlan) : Json :=
  .object
    [("campaign_id", .string plan.campaignId),
      ("sequence", .ofNat plan.sequence),
      ("reader", .string plan.reader.asStr),
      ("failure", .string plan.failure.name),
      ("import_name", .string plan.importName)]

def resumeStatusJson (status : ResumeStatus) : Json :=
  .object
    [("schema", .string status.schema),
      ("schema_version", .ofNat status.schemaVersion),
      ("campaign_id", .string status.campaignId),
      ("state", .string (resumeStateName status.state)),
      ("frontier_sequence", .ofNat status.frontierSequence),
      ("next_sequence", Json.ofOption .ofNat status.nextSequence),
      ("next_plan", Json.ofOption planJson status.nextPlan),
      ("blocked_sequence", Json.ofOption .ofNat status.blockedSequence),
      ("reason", Json.ofOption .string status.reason)]

def Trend.toJson {α : Type} (encode : α → Json) (trend : Trend α) : Json :=
  .object
    [("first", Json.ofOption encode trend.first),
      ("last", Json.ofOption encode trend.last),
      ("minimum", Json.ofOption encode trend.minimum),
      ("maximum", Json.ofOption encode trend.maximum),
      ("delta", Json.ofOption .integer trend.delta)]

def i64TrendJson (trend : I64Trend) : Json := Trend.toJson .integer trend

def ResourceSummary.toJson (resources : ResourceSummary) : Json :=
  .object
    [("sample_count", .ofNat resources.sampleCount),
      ("first_timestamp_unix_nanos_utc",
        Json.ofOption .ofNat resources.firstTimestampUnixNanosUtc),
      ("last_timestamp_unix_nanos_utc",
        Json.ofOption .ofNat resources.lastTimestampUnixNanosUtc),
      ("process_observations", .ofNat resources.processObservations),
      ("process_unavailable_observations",
        .ofNat resources.processUnavailableObservations),
      ("peak_rss_bytes_by_role",
        .object (resources.peakRssBytesByRole.entries.map (fun entry =>
          (entry.1, .ofNat entry.2)))),
      ("postgres_total_connections",
        i64TrendJson resources.postgresTotalConnections),
      ("postgres_active_connections",
        i64TrendJson resources.postgresActiveConnections),
      ("database_size_bytes", i64TrendJson resources.databaseSizeBytes),
      ("oxide_batch", .object
        [("job_instances", i64TrendJson resources.oxideBatch.jobInstances),
          ("job_executions",
            i64TrendJson resources.oxideBatch.jobExecutions),
          ("step_executions",
            i64TrendJson resources.oxideBatch.stepExecutions),
          ("job_instance_table_bytes",
            i64TrendJson resources.oxideBatch.jobInstanceTableBytes),
          ("job_execution_table_bytes",
            i64TrendJson resources.oxideBatch.jobExecutionTableBytes),
          ("step_execution_table_bytes",
            i64TrendJson resources.oxideBatch.stepExecutionTableBytes)]),
      ("filesystem_available_bytes",
        Trend.toJson .ofNat resources.filesystemAvailableBytes)]

def DatabaseReconciliation.toJson (database : DatabaseReconciliation) :
    Json :=
  .object
    [("logical_identities_checked",
        .ofNat database.logicalIdentitiesChecked),
      ("execution_rows_observed", .ofNat database.executionRowsObserved),
      ("missing_logical_identities",
        .array (database.missingLogicalIdentities.map .string)),
      ("recovery_required_executions",
        .array (database.recoveryRequiredExecutions.map (fun execution =>
          .object
            [("execution_id", .string execution.executionId),
              ("import_name", .string execution.importName),
              ("status", .string execution.status)])))]

def CampaignSummary.toJson (summary : CampaignSummary) : Json :=
  .object
    [("schema", .string summary.schema),
      ("schema_version", .ofNat summary.schemaVersion),
      ("summary_path", .string summary.summaryPath),
      ("campaign", summary.campaign.toJson),
      ("observed_at_unix_nanos_utc", .ofNat summary.observedAtUnixNanosUtc),
      ("elapsed_nanos", .ofNat summary.elapsedNanos),
      ("minimum_elapsed_nanos", .ofNat summary.minimumElapsedNanos),
      ("minimum_completed_iterations",
        .ofNat summary.minimumCompletedIterations),
      ("minimum_before_commit_crashes",
        .ofNat summary.minimumBeforeCommitCrashes),
      ("minimum_after_commit_crashes",
        .ofNat summary.minimumAfterCommitCrashes),
      ("final_frontier_sequence", .ofNat summary.finalFrontierSequence),
      ("completed_logical_iterations",
        .ofNat summary.completedLogicalIterations),
      ("readers", .object
        [("cursor", .ofNat summary.readers.cursor),
          ("paging", .ofNat summary.readers.paging)]),
      ("executions", .object
        [("clean", .ofNat summary.executions.clean),
          ("before_commit_crash",
            .ofNat summary.executions.beforeCommitCrash),
          ("after_commit_crash",
            .ofNat summary.executions.afterCommitCrash)]),
      ("lifecycle", .object
        [("terminal_success", .ofNat summary.lifecycle.terminalSuccess),
          ("terminal_failure", .ofNat summary.lifecycle.terminalFailure)]),
      ("failures", .object
        [("total", .ofNat summary.failures.total),
          ("harness_environment",
            .ofNat summary.failures.harnessEnvironment),
          ("workload_child", .ofNat summary.failures.workloadChild),
          ("verification", .ofNat summary.failures.verification)]),
      ("resources", summary.resources.toJson),
      ("final_resume_status", resumeStatusJson summary.finalResumeStatus),
      ("evidence_semantic_violations",
        .array (summary.evidenceSemanticViolations.map .string)),
      ("database", summary.database.toJson),
      ("reason_codes", .array (summary.reasonCodes.map (fun reason =>
        .string reason.name))),
      ("verdict", .string summary.verdict.name)]

end Serialization

/-! ### Finalization -/

def durationNanos (duration : Nat) : Except String Nat := do
  ensure (duration ≤ u64Max)
    "summary minimum elapsed duration does not fit u64 nanoseconds"
  return duration

/-- What is known at the end, as one record. -/
def summaryOf (summaryPath : String) (snapshot : EvidenceSnapshot)
    (policy : SummaryAcceptancePolicy)
    (observedAtUnixNanosUtc elapsedNanos minimumElapsedNanos : Nat)
    (database : DatabaseReconciliation) : CampaignSummary :=
  let reasons := reasonCodes snapshot policy elapsedNanos minimumElapsedNanos
    database
  { schema := summarySchema
    schemaVersion := schemaVersion
    summaryPath := summaryPath
    campaign := snapshot.campaign
    observedAtUnixNanosUtc := observedAtUnixNanosUtc
    elapsedNanos := elapsedNanos
    minimumElapsedNanos := minimumElapsedNanos
    minimumCompletedIterations := policy.minimumCompletedIterations
    minimumBeforeCommitCrashes := policy.minimumBeforeCommitCrashes
    minimumAfterCommitCrashes := policy.minimumAfterCommitCrashes
    finalFrontierSequence := snapshot.resume.frontierSequence
    completedLogicalIterations := snapshot.resume.frontierSequence
    readers := snapshot.readers
    executions := snapshot.executions
    lifecycle := snapshot.lifecycle
    failures := snapshot.failures
    resources := snapshot.resources
    finalResumeStatus := snapshot.resume
    evidenceSemanticViolations := snapshot.semanticViolations
    database := database
    reasonCodes := reasons
    verdict := if reasons = [] then .accepted else .rejected }

def finalizeSummary (setting : Setting) (snapshot : EvidenceSnapshot)
    (policy : SummaryAcceptancePolicy) (observedAtUnixNanosUtc : Nat)
    (database : DatabaseReconciliation) : Program CampaignSummary := do
  let minimumElapsedNanos ← ofExcept (durationNanos policy.minimumElapsed)
  ofExcept (ensure
    (snapshot.campaign.createdAtUnixNanosUtc ≤ observedAtUnixNanosUtc)
    (s!"summary observation clock {observedAtUnixNanosUtc} precedes " ++
      "durable campaign start " ++
      s!"{snapshot.campaign.createdAtUnixNanosUtc}"))
  let elapsedNanos :=
    observedAtUnixNanosUtc - snapshot.campaign.createdAtUnixNanosUtc
  let dir := setting.campaignDir snapshot.campaign.campaignId
  let summary := summaryOf (joinPath dir "summary.json") snapshot policy
    observedAtUnixNanosUtc elapsedNanos minimumElapsedNanos database
  atomicWriteJson dir .top "summary.json" summary.toJson
  return summary

end Summary

end Endurance
