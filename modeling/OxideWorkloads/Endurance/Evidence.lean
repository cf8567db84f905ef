/-
The evidence store of a campaign, as programs over the campaign directory.

Every effect asks the environment once: whether the process is killed instead,
whether the operating system reports an error, how many bytes of a write got
through, and what the clock, a child process or the database says; where the
program takes the lock of a running sampler, also what the sampler does before
that.  All answers come from one supply that a run is given at its start, so
that a statement about every supply is a statement about every environment
and every interleaving.
-/

import OxideWorkloads.Endurance.ResumeScans
import OxideWorkloads.Endurance.Sampler
import OxideWorkloads.Foundation.CrashRun

namespace Endurance

open Foundation
open Foundation.CrashRun
open Foundation.LineLog (Bytes)

/-! ### The environment -/

structure ExitStatus where
  success : Bool
  code : Option Int32
  signal : Option Int32
  text : String

/-- How a child process ended, and what it printed. -/
structure ChildOutput where
  status : ExitStatus
  stdout : String
  stderr : String

/-- One look at the pause marker of a crash child and at the child itself. -/
structure MarkerPoll where
  contents : Option (Except String String)
  exited : Except String (Option String)

/-- What the environment answers to one effect.  An effect looks only at the
parts that concern it. -/
structure Answer where
  killed : Bool
  fault : Option String
  landed : Nat
  nanos : Option Nat
  processId : UInt32
  pid : Option UInt32
  output : String → List String → ChildOutput
  markerPolls : String → UInt32 → List MarkerPoll
  crashOutput : ChildOutput
  crashState : String → Int → CrashStateSnapshot
  deletedRows : UInt64
  probe : ProcessTarget → Except String ProcessObservation
  schedule : Sampler → List SamplerInput

/-- The campaign directory, the sampler of this process, and the answers still
to come. -/
structure World where
  disk : CampaignDir
  sampler : Sampler
  supply : Nat → Answer

/-- A process that has just started, and runs no sampler. -/
def World.start (disk : CampaignDir) (supply : Nat → Answer) : World :=
  { disk := disk
    sampler := .spawn
      { samplesPath := ""
        campaignId := ""
        sequence := 0
        intervalMillis := 0 }
    supply := supply }

abbrev Program := CrashRun World String

/-- The world behind the next answer. -/
def World.consulted (world : World) : World :=
  { world with supply := fun index => world.supply (index + 1) }

/-- The next answer, whatever it says. -/
def consult : Program Answer :=
  fun world => (.ok (world.supply 0), world.consulted)

def changeDisk (update : CampaignDir → CampaignDir) : Program Unit :=
  modify (fun world => { world with disk := update world.disk })

def readDisk : Program CampaignDir := do
  let world ← CrashRun.state
  return world.disk

/-- The next answer, unless the process is killed first. -/
def draw : Program Answer := do
  let answer ← consult
  if answer.killed = true then kill else pure answer

@[simp] theorem wp_consult (post : Post World String Answer) (world : World) :
    wp consult post world ↔ post.ok (world.supply 0) world.consulted :=
  Iff.rfl

@[simp] theorem wp_draw (post : Post World String Answer) (world : World) :
    wp draw post world ↔
      if (world.supply 0).killed = true then post.killed world.consulted
      else post.ok (world.supply 0) world.consulted := by
  simp only [draw, wp_bind, wp_consult]
  split_ifs <;> exact Iff.rfl

/-- An effect that the operating system may refuse. -/
def perform (doing : String) : Program Answer := do
  let answer ← draw
  match answer.fault with
  | some error => fail (doing ++ ": " ++ error)
  | none => pure answer

def nowUnixNanos : Program Nat := do
  let answer ← draw
  ofExcept (unixNanos answer.nanos)

/-! ### Appends -/

/-- Put bytes at the end of the event log, which is created when it is
missing. -/
def appendEvents (bytes : Bytes) (disk : CampaignDir) : CampaignDir :=
  { disk with events := some (disk.events.getD [] ++ bytes) }

/-- Append one line to the event log.  An interrupted or failed write leaves
the beginning of the line behind. -/
def appendJsonl (path : String) (value : Json) : Program Unit := do
  let bytes := Json.compact value ++ [LineLog.newline]
  let _ ← perform s!"append {path}"
  changeDisk (appendEvents [])
  let answer ← consult
  if answer.killed = true then
    changeDisk (appendEvents (bytes.take answer.landed))
    kill
  else
    match answer.fault with
    | some error => do
        changeDisk (appendEvents (bytes.take answer.landed))
        fail (s!"write {path}: " ++ error)
    | none => do
        changeDisk (appendEvents bytes)
        let _ ← perform s!"flush {path}"
        let _ ← perform s!"sync {path}"

/-! ### Atomic replacement -/

/-- The directories in which files are replaced atomically. -/
inductive Folder where
  | top
  | iterations
  | failures
  deriving DecidableEq

def Folder.get (folder : Folder) (disk : CampaignDir) : Entries :=
  match folder with
  | .top => disk.top
  | .iterations => disk.iterations.getD []
  | .failures => disk.failures.getD []

/-- Change the entries of a directory, which is created when it is missing. -/
def Folder.update (folder : Folder) (change : Entries → Entries)
    (disk : CampaignDir) : CampaignDir :=
  match folder with
  | .top => { disk with top := change disk.top }
  | .iterations =>
      { disk with iterations := some (change (disk.iterations.getD [])) }
  | .failures =>
      { disk with failures := some (change (disk.failures.getD [])) }

def createDirAll (doing : String) (folder : Folder) : Program Unit := do
  let _ ← perform doing
  changeDisk (folder.update id)

def temporaryName (fileName : String) (processId : UInt32)
    (timestamp : Nat) : String :=
  "." ++ fileName ++ ".tmp-" ++ Text.decimal processId.toNat ++ "-" ++
    Text.decimal timestamp

/-- Write the temporary file and move it over the final name. -/
def replaceThrough (parent : String) (folder : Folder)
    (fileName temp : String) (bytes : Bytes) : Program Unit := do
  let tempPath := joinPath parent temp
  let disk ← readDisk
  if hasEntry temp (folder.get disk) = true then
    fail (s!"create temporary evidence {tempPath}: " ++
      "File exists (os error 17)")
  else do
    let _ ← perform s!"create temporary evidence {tempPath}"
    changeDisk (folder.update (putFile temp []))
    let answer ← consult
    if answer.killed = true then
      changeDisk (folder.update (putFile temp (bytes.take answer.landed)))
      kill
    else
      match answer.fault with
      | some error => do
          changeDisk (folder.update (putFile temp (bytes.take answer.landed)))
          fail (s!"serialize temporary evidence {tempPath}: " ++ error)
      | none => do
          changeDisk (folder.update (putFile temp bytes))
          let _ ← perform s!"flush temporary evidence {tempPath}"
          let _ ← perform s!"sync temporary evidence {tempPath}"
          let _ ← perform
            s!"rename {tempPath} -> {joinPath parent fileName}"
          changeDisk (folder.update (fun entries =>
            putFile fileName bytes (removeFile temp entries)))
          let _ ← perform s!"sync evidence directory {parent}"

def atomicWriteJson (parent : String) (folder : Folder) (fileName : String)
    (value : Json) : Program Unit := do
  createDirAll s!"create evidence parent {parent}" folder
  let timestamp ← nowUnixNanos
  let answer ← draw
  let temp := temporaryName fileName answer.processId timestamp
  let written ← attempt (replaceThrough parent folder fileName temp
    (Json.pretty value ++ [LineLog.newline]))
  match written with
  | .ok () => pure ()
  | .error error => do
      -- The temporary file is removed if possible; the outcome is ignored.
      let removal ← draw
      if removal.fault = none then
        changeDisk (folder.update (removeFile temp))
        fail error
      else fail error

/-! ### The store -/

structure EvidenceStore where
  campaign : CampaignRecord

/-- Take the campaign record that exists, or write the expected one. -/
def loadOrCreateCampaign (setting : Setting) (campaignId : String)
    (expected : CampaignRecord) : Program CampaignRecord := do
  let path := setting.campaignPath campaignId
  let disk ← readDisk
  if hasEntry "campaign.json" disk.top = true then
    match fileContent "campaign.json" disk.top with
    | none => fail s!"parse {path}: Is a directory (os error 21)"
    | some bytes =>
        match setting.parseRecord CampaignRecord.deserialize bytes with
        | .error error => fail s!"parse {path}: {error}"
        | .ok existing =>
            if sameCampaignIdentity existing expected = true then
              pure existing
            else
              fail ("existing campaign metadata conflicts with requested " ++
                s!"campaign identity: {path}")
  else do
    atomicWriteJson (setting.campaignDir campaignId) .top "campaign.json"
      expected.toJson
    return expected

/-- Open the evidence of a campaign, creating what is missing. -/
def EvidenceStore.open (setting : Setting) (campaignId : String) :
    Program EvidenceStore := do
  let _ ← ofExcept (planIteration campaignId 1)
  createDirAll s!"create {setting.iterationsDir campaignId}" .iterations
  createDirAll s!"create {setting.failuresDir campaignId}" .failures
  let createdAt ← nowUnixNanos
  let binary ← ofExcept setting.binary
  let campaign ← loadOrCreateCampaign setting campaignId
    (expectedCampaign campaignId createdAt binary)
  let _ ← perform s!"open {setting.eventsPath campaignId}"
  changeDisk (appendEvents [])
  let _ ← perform s!"sync {setting.eventsPath campaignId}"
  return { campaign := campaign }

section Store

variable (setting : Setting) (store : EvidenceStore)

def EvidenceStore.recordEvent (sequence : Nat) (phase : String)
    (detail : Json) : Program Unit := do
  let timestamp ← nowUnixNanos
  appendJsonl (setting.eventsPath store.campaign.campaignId)
    (eventJson timestamp store.campaign.campaignId sequence phase detail)

def EvidenceStore.iterationPath (sequence : Nat) : String :=
  joinPath (setting.iterationsDir store.campaign.campaignId)
    (iterationFileName sequence)

def EvidenceStore.writeSuccess (sequence : Nat)
    (execution : RecordedExecutionResult) : Program String := do
  let path := store.iterationPath setting sequence
  let disk ← readDisk
  if hasEntry (iterationFileName sequence)
      (Folder.iterations.get disk) = true then
    fail ("terminal iteration evidence already exists for sequence " ++
      s!"{sequence}: {path}")
  else do
    let timestamp ← nowUnixNanos
    atomicWriteJson (setting.iterationsDir store.campaign.campaignId)
      .iterations (iterationFileName sequence)
      (iterationJson timestamp store.campaign.campaignId sequence execution)
    return path

def failureFileName (sequence timestamp : Nat) : String :=
  Text.zeroPadded 6 sequence ++ "-" ++ Text.decimal timestamp ++ ".json"

def EvidenceStore.writeFailure (sequence : Nat) (failureClass : FailureClass)
    (redactedError : String) : Program String := do
  let timestamp ← nowUnixNanos
  let fileName := failureFileName sequence timestamp
  let dir := setting.failuresDir store.campaign.campaignId
  atomicWriteJson dir .failures fileName
    (failureJson timestamp store.campaign.campaignId sequence failureClass
      redactedError)
  return joinPath dir fileName

/-- A text contains another one. -/
def contains (text part : String) : Bool :=
  text.toList.tails.any (fun rest => part.toList.isPrefixOf rest)

def classifyFailure (message : String) : FailureClass :=
  if contains message "resource sampler" then .harnessEnvironment
  else if contains message "verify child failed" then .verification
  else if contains message "run child failed" ||
      contains message "recover child failed" ||
      contains message "continuation child failed" ||
      contains message "plain relaunch unexpectedly succeeded" then
    .workloadChild
  else .harnessEnvironment

/-- Replace every occurrence of a nonempty pattern, left to right.  `skip`
counts the characters of the current occurrence still to be dropped. -/
def replaceChars (pattern replacement : List Char) :
    Nat → List Char → List Char
  | _, [] => []
  | skip + 1, _ :: rest => replaceChars pattern replacement skip rest
  | 0, char :: rest =>
      if pattern.isPrefixOf (char :: rest) then
        replacement ++ replaceChars pattern replacement
          (pattern.length - 1) rest
      else char :: replaceChars pattern replacement 0 rest

def redactDatabaseUrl (message databaseUrl : String) : String :=
  if databaseUrl = "" then message
  else
    String.ofList (replaceChars databaseUrl.toList
      "[REDACTED_DATABASE_URL]".toList 0 message.toList)

structure RecordedIterationOutput where
  campaignId : String
  sequence : Nat
  campaignDir : String
  eventsPath : String
  iterationPath : String
  execution : RecordedExecutionResult

/-- The singleton first, then the event that claims it. -/
def finalizeSuccess (campaignId : String) (sequence : Nat)
    (execution : RecordedExecutionResult) :
    Program RecordedIterationOutput := do
  let iterationPath ← store.writeSuccess setting sequence execution
  store.recordEvent setting sequence terminalSuccessPhase
    (.object [("iteration_path", .string iterationPath)])
  return {
    campaignId := campaignId
    sequence := sequence
    campaignDir := setting.campaignDir store.campaign.campaignId
    eventsPath := setting.eventsPath store.campaign.campaignId
    iterationPath := iterationPath
    execution := execution }

def finalizeFailure (sequence : Nat) (error : String) : Program Unit := do
  let failureClass := classifyFailure error
  let redacted := redactDatabaseUrl error setting.databaseUrl
  let failurePath ← store.writeFailure setting sequence failureClass redacted
  store.recordEvent setting sequence terminalFailurePhase
    (.object
      [("failure_class", .string failureClass.name),
        ("failure_path", .string failurePath)])

end Store

/-- An occurrence is replaced as a whole, also at the end of the text. -/
example : redactDatabaseUrl "connect pg://u:p@h/d failed: pg://u:p@h/d"
    "pg://u:p@h/d" = "connect [REDACTED_DATABASE_URL] failed: " ++
      "[REDACTED_DATABASE_URL]" := by decide

end Endurance
