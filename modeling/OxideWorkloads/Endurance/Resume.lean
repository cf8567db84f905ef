/-
Read-only reconciliation of the durable evidence of a campaign: three scans
collect the evidence for each sequence, and one walk up the sequences decides
whether the campaign can go on, and where.
-/

import OxideWorkloads.Endurance.CampaignDir
import OxideWorkloads.Foundation.Checks
import OxideWorkloads.Foundation.OrderedMap

namespace Endurance

open Foundation
open Foundation.LineLog (Bytes)
open Foundation.Checks
open Foundation.JsonGrammar (decodeUtf8)

def resumeSchema : String := "oxide-batch-workloads.endurance-resume-status"

inductive ResumeState where
  | ready
  | blockedFailure
  | blockedIncomplete
  | blockedInconsistentEvidence
  deriving DecidableEq, Repr

structure ResumeStatus where
  schema : String
  schemaVersion : Nat
  campaignId : String
  state : ResumeState
  frontierSequence : Nat
  nextSequence : Option Nat
  nextPlan : Option IterationPlan
  blockedSequence : Option Nat
  reason : Option String
  deriving DecidableEq, Repr

/-- What the evidence directory says about one sequence. -/
structure SequenceEvidence where
  lifecycleEvents : Nat
  terminalSuccessEvents : Nat
  terminalFailureEvents : Nat
  iterationSuccess : Bool
  failureFiles : Nat
  deriving DecidableEq, Repr

def SequenceEvidence.default : SequenceEvidence :=
  { lifecycleEvents := 0
    terminalSuccessEvents := 0
    terminalFailureEvents := 0
    iterationSuccess := false
    failureFiles := 0 }

abbrev Evidence := OrderedMap Nat SequenceEvidence

/-! ### The statuses -/

def readyStatus (campaignId : String) (frontier nextSequence : Nat) :
    Except String ResumeStatus := do
  let nextPlan ← planIteration campaignId nextSequence
  return {
    schema := resumeSchema
    schemaVersion := schemaVersion
    campaignId := campaignId
    state := .ready
    frontierSequence := frontier
    nextSequence := some nextSequence
    nextPlan := some nextPlan
    blockedSequence := none
    reason := none }

def blocked (campaignId : String) (state : ResumeState)
    (frontier sequence : Nat) (reason : String) : ResumeStatus :=
  { schema := resumeSchema
    schemaVersion := schemaVersion
    campaignId := campaignId
    state := state
    frontierSequence := frontier
    nextSequence := none
    nextPlan := none
    blockedSequence := some sequence
    reason := some reason }

def inconsistent (campaignId : String) (frontier : Nat)
    (sequence : Option Nat) (reason : String) : ResumeStatus :=
  { schema := resumeSchema
    schemaVersion := schemaVersion
    campaignId := campaignId
    state := .blockedInconsistentEvidence
    frontierSequence := frontier
    nextSequence := none
    nextPlan := none
    blockedSequence := sequence
    reason := some reason }

/-! ### The scans -/

def validateCommonRecord (schema expectedSchema : String)
    (version : Nat) (recordCampaignId expectedCampaignId : String)
    (sequence : Nat) (source : String) : Except String Unit := do
  ensure (schema = expectedSchema)
    (s!"unexpected schema {Text.debug schema}, expected " ++
      s!"{Text.debug expectedSchema}: {source}")
  ensure (version = schemaVersion)
    (s!"unsupported schema version {version}, expected " ++
      s!"{schemaVersion}: {source}")
  ensure (recordCampaignId = expectedCampaignId)
    (s!"campaign id {Text.debug recordCampaignId} does not match " ++
      s!"{Text.debug expectedCampaignId}: {source}")
  ensure (sequence ≠ 0) s!"sequence zero is invalid: {source}"

/-- The checks on one line of the event log. -/
def readEventLine (setting : Setting) (path campaignId : String)
    (lineNumber : Nat) (line : Bytes) : Except String EventRecord := do
  let text ← require (decodeUtf8 line)
    (s!"read {path} line {lineNumber}: " ++
      "stream did not contain valid UTF-8")
  ensure (Text.isBlank text = false)
    s!"{path} line {lineNumber} is unexpectedly blank"
  let record ← context s!"parse {path} line {lineNumber} as endurance event"
    (setting.parseRecord EventRecord.deserialize line)
  validateCommonRecord record.schema eventSchema record.schemaVersion
    record.campaignId campaignId record.sequence
    s!"{path} line {lineNumber}"
  ensure (record.phase ≠ "")
    s!"{path} line {lineNumber} has an empty lifecycle phase"
  return record

/-- Count one event. -/
def SequenceEvidence.addEvent (phase : String)
    (evidence : SequenceEvidence) : SequenceEvidence :=
  let counted :=
    { evidence with lifecycleEvents := evidence.lifecycleEvents + 1 }
  if phase = terminalSuccessPhase then
    { counted with
      terminalSuccessEvents := evidence.terminalSuccessEvents + 1 }
  else if phase = terminalFailurePhase then
    { counted with
      terminalFailureEvents := evidence.terminalFailureEvents + 1 }
  else counted

def recordEvidence (evidence : Evidence) (record : EventRecord) : Evidence :=
  evidence.update record.sequence .default (.addEvent record.phase)

def scanEventLines (setting : Setting) (path campaignId : String) :
    Nat → List Bytes → Evidence → Except String Evidence
  | _, [], evidence => .ok evidence
  | lineNumber, line :: rest, evidence => do
      let record ← readEventLine setting path campaignId lineNumber line
      scanEventLines setting path campaignId (lineNumber + 1) rest
        (recordEvidence evidence record)

def scanEvents (setting : Setting) (path campaignId : String) (log : Bytes)
    (evidence : Evidence) : Except String Evidence :=
  scanEventLines setting path campaignId 1 (LineLog.lines log) evidence

def utf8FileName (path : String) : FileName → Except String String
  | .utf8 text => .ok text
  | .other _ => .error s!"evidence filename is not UTF-8: {path}"

def parseSequenceText (text path : String) : Except String Nat := do
  ensure (text ≠ "" ∧ Text.isAsciiDigits text = true)
    s!"malformed sequence in evidence filename: {path}"
  let sequence ← require (Text.parseUnsigned u64Max text)
    (s!"parse sequence from {path}: number too large to fit in target type")
  ensure (sequence ≠ 0)
    s!"sequence zero is invalid in evidence filename: {path}"
  return sequence

/-- The name of the iteration singleton of a sequence. -/
def iterationFileName (sequence : Nat) : String :=
  Text.zeroPadded 6 sequence ++ ".json"

def parseIterationFileName (path : String) (fileName : FileName) :
    Except String Nat := do
  let name ← utf8FileName path fileName
  let stem ← require (Text.stripSuffix name ".json")
    s!"malformed iteration evidence filename: {path}"
  let sequence ← parseSequenceText stem path
  ensure (name = iterationFileName sequence)
    s!"non-canonical iteration evidence filename: {path}"
  return sequence

def parseFailureFileName (path : String) (fileName : FileName) :
    Except String Nat := do
  let name ← utf8FileName path fileName
  let stem ← require (Text.stripSuffix name ".json")
    s!"malformed failure evidence filename: {path}"
  let (sequenceText, timestampText) ← require (Text.splitOnce stem '-')
    s!"malformed failure evidence filename: {path}"
  let sequence ← parseSequenceText sequenceText path
  ensure (sequenceText = Text.zeroPadded 6 sequence)
    s!"non-canonical failure sequence in filename: {path}"
  ensure (timestampText ≠ "" ∧ Text.isAsciiDigits timestampText = true ∧
      (Text.parseUnsigned u64Max timestampText).isSome = true)
    s!"malformed failure timestamp in filename: {path}"
  return sequence

/-- The checks on one entry of the iteration directory. -/
def readIterationEntry (setting : Setting) (dir campaignId : String)
    (entry : Entry) : Except String Nat := do
  let path := joinPath dir entry.1.display
  let bytes ← require entry.2
    s!"iteration evidence entry is not a regular file: {path}"
  let sequence ← parseIterationFileName path entry.1
  let record ← context s!"parse {path} as iteration evidence"
    (setting.parseRecord IterationRecord.deserialize bytes)
  validateCommonRecord record.schema iterationSchema record.schemaVersion
    record.campaignId campaignId record.sequence path
  ensure (record.sequence = sequence)
    (s!"iteration evidence sequence {record.sequence} disagrees with " ++
      s!"filename sequence {sequence}: {path}")
  ensure (record.terminal = "success")
    (s!"iteration singleton must be terminal success, found " ++
      s!"{Text.debug record.terminal}: {path}")
  let executionSequence ← require
    (((record.execution.get "result").bind (fun result =>
      result.get "sequence")).bind Json.asU64)
    s!"iteration execution is missing numeric result.sequence: {path}"
  ensure (executionSequence = sequence)
    (s!"iteration execution sequence {executionSequence} disagrees with " ++
      s!"{sequence}: {path}")
  return sequence

def scanIterations (setting : Setting) (dir campaignId : String) :
    Entries → Evidence → Except String Evidence
  | [], evidence => .ok evidence
  | entry :: rest, evidence => do
      let sequence ← readIterationEntry setting dir campaignId entry
      ensure (((evidence.get? sequence).getD .default).iterationSuccess = false)
        s!"duplicate terminal iteration singleton for sequence {sequence}"
      scanIterations setting dir campaignId rest
        (evidence.update sequence .default
          (fun current => { current with iterationSuccess := true }))

/-- The checks on one entry of the failure directory. -/
def readFailureEntry (setting : Setting) (dir campaignId : String)
    (entry : Entry) : Except String Nat := do
  let path := joinPath dir entry.1.display
  let bytes ← require entry.2
    s!"failure evidence entry is not a regular file: {path}"
  let sequence ← parseFailureFileName path entry.1
  let record ← context s!"parse {path} as failure evidence"
    (setting.parseRecord FailureRecord.deserialize bytes)
  validateCommonRecord record.schema failureSchema record.schemaVersion
    record.campaignId campaignId record.sequence path
  ensure (record.sequence = sequence)
    (s!"failure evidence sequence {record.sequence} disagrees with " ++
      s!"filename sequence {sequence}: {path}")
  ensure (record.terminal = "failure")
    (s!"failure artifact must be terminal failure, found " ++
      s!"{Text.debug record.terminal}: {path}")
  return sequence

def scanFailures (setting : Setting) (dir campaignId : String) :
    Entries → Evidence → Except String Evidence
  | [], evidence => .ok evidence
  | entry :: rest, evidence => do
      let sequence ← readFailureEntry setting dir campaignId entry
      scanFailures setting dir campaignId rest
        (evidence.update sequence .default
          (fun current =>
            { current with failureFiles := current.failureFiles + 1 }))

/-! ### The walk -/

/-- Decide on one sequence after another.  `frontier` is the last sequence
that was found complete. -/
def reconcileFrom (campaignId : String) (evidence : Evidence)
    (frontier sequence : Nat) : Except String ResumeStatus :=
  match evidence.get? sequence with
  | none =>
      match evidence.firstAbove sequence with
      | some higher =>
          .ok (inconsistent campaignId frontier (some sequence)
            (s!"evidence gap at sequence {sequence}; higher sequence " ++
              s!"{higher} exists"))
      | none => readyStatus campaignId frontier sequence
  | some current =>
      if 1 < current.terminalSuccessEvents ∨
          1 < current.terminalFailureEvents then
        .ok (inconsistent campaignId frontier (some sequence)
          s!"duplicate terminal lifecycle outcomes for sequence {sequence}")
      else
        let hasSuccess := current.terminalSuccessEvents = 1 ∨
          current.iterationSuccess = true
        let hasFailure := current.terminalFailureEvents = 1 ∨
          0 < current.failureFiles
        if hasSuccess ∧ hasFailure then
          .ok (inconsistent campaignId frontier (some sequence)
            ("conflicting success and failure evidence for sequence " ++
              s!"{sequence}"))
        else if current.terminalSuccessEvents = 1 ∧
            current.iterationSuccess = false then
          .ok (inconsistent campaignId frontier (some sequence)
            ("terminal-success exists without iteration singleton for " ++
              s!"sequence {sequence}"))
        else if current.iterationSuccess = true ∧
            current.terminalSuccessEvents ≠ 1 then
          .ok (inconsistent campaignId frontier (some sequence)
            ("iteration singleton lacks one terminal-success event for " ++
              s!"sequence {sequence}"))
        else if hasFailure then
          match evidence.firstAbove sequence with
          | some higher =>
              .ok (inconsistent campaignId frontier (some sequence)
                (s!"sequence {sequence} is failed but higher sequence " ++
                  s!"{higher} evidence exists"))
          | none =>
              .ok (blocked campaignId .blockedFailure frontier sequence
                (s!"terminal failure evidence blocks sequence " ++
                  s!"{sequence}"))
        else if current.iterationSuccess = true ∧
            current.terminalSuccessEvents = 1 then
          -- The addition is checked, which also bounds the walk.
          if sequence + 1 ≤ u64Max then
            reconcileFrom campaignId evidence sequence (sequence + 1)
          else
            .ok (inconsistent campaignId sequence (some sequence)
              "sequence frontier overflowed u64")
        else if 0 < current.lifecycleEvents then
          match evidence.firstAbove sequence with
          | some higher =>
              .ok (inconsistent campaignId frontier (some sequence)
                (s!"sequence {sequence} is incomplete but higher sequence " ++
                  s!"{higher} exists"))
          | none =>
              .ok (blocked campaignId .blockedIncomplete frontier sequence
                (s!"nonterminal lifecycle evidence blocks sequence " ++
                  s!"{sequence}"))
        else
          .ok (inconsistent campaignId frontier (some sequence)
            s!"unclassified durable evidence exists for sequence {sequence}")
termination_by u64Max - sequence

def reconcileSequences (campaignId : String) (evidence : Evidence) :
    Except String ResumeStatus :=
  reconcileFrom campaignId evidence 0 1

/-- The three scans, one after the other. -/
def scanEvidence (setting : Setting) (campaignId : String) (log : Bytes)
    (iterations failures : Entries) : Except String Evidence := do
  let events ← scanEvents setting (setting.eventsPath campaignId) campaignId
    log .empty
  let singletons ← scanIterations setting (setting.iterationsDir campaignId)
    campaignId iterations events
  scanFailures setting (setting.failuresDir campaignId) campaignId failures
    singletons

def reconcileResumeStatus (setting : Setting) (campaignId : String)
    (disk : CampaignDir) : Except String ResumeStatus :=
  match loadExistingCampaignReadonly setting campaignId disk with
  | .error error =>
      .ok (inconsistent campaignId 0 none
        s!"campaign identity/provenance validation failed: {error}")
  | .ok campaign =>
      if campaign.workload ≠ workloadName ∨
          campaign.oxideBatchVersion ≠ oxideBatchVersion ∨
          campaign.sourceRows ≠ canonicalSourceRows ∨
          campaign.seed ≠ canonicalSeed ∨
          campaign.chunkSize ≠ canonicalChunkSize ∨
          campaign.cursorFetchSize ≠ canonicalCursorFetchSize ∨
          campaign.pagingPageSize ≠ canonicalPagingPageSize then
        .ok (inconsistent campaignId 0 none
          ("campaign metadata does not match the frozen endurance " ++
            "configuration"))
      else
        match disk.events, disk.iterations, disk.failures with
        | none, _, _ =>
            .ok (inconsistent campaignId 0 none
              ("required event log is missing: " ++
                setting.eventsPath campaignId))
        | some _, none, _ =>
            .ok (inconsistent campaignId 0 none
              ("required iteration evidence directory is missing: " ++
                setting.iterationsDir campaignId))
        | some _, some _, none =>
            .ok (inconsistent campaignId 0 none
              ("required failure evidence directory is missing: " ++
                setting.failuresDir campaignId))
        | some log, some iterations, some failures =>
            match scanEvidence setting campaignId log iterations failures with
            | .error reason =>
                .ok (inconsistent campaignId 0 none reason)
            | .ok evidence => reconcileSequences campaignId evidence

end Endurance
