/-
What the scanners of the summary accept without a violation.

For one document this is a list of members with the values that the plan asks
for; for the iterations up to a frontier it is such a document for each of
them, and then the counts are those of the schedule.
-/

import OxideWorkloads.Endurance.Summary

namespace Endurance

namespace Summary

open Foundation
open Foundation.CrashRun
open Foundation.LineLog (Bytes)
open Foundation.Checks

variable {setting : Setting} {campaignId source : String} {value : Json}
variable {pointer : List String}

/-! ### Access -/

theorem stringAt_eq_ok {text : String} :
    stringAt value pointer source = .ok text ↔
      value.pointer pointer = some (.string text) := by
  rw [stringAt, require_eq_ok, Option.bind_eq_some_iff]
  constructor
  · intro found
    obtain ⟨inner, points, reads⟩ := found
    cases inner <;> cases reads
    exact points
  · intro points
    exact ⟨_, points, rfl⟩

theorem boolAt_eq_ok {flag : Bool} :
    boolAt value pointer source = .ok flag ↔
      value.pointer pointer = some (.bool flag) := by
  rw [boolAt, require_eq_ok, Option.bind_eq_some_iff]
  constructor
  · intro found
    obtain ⟨inner, points, reads⟩ := found
    cases inner <;> cases reads
    exact points
  · intro points
    exact ⟨_, points, rfl⟩

theorem u64At_eq_ok {number : Nat} :
    u64At value pointer source = .ok number ↔
      value.pointer pointer = some (.ofNat number) ∧ number ≤ u64Max := by
  rw [u64At, require_eq_ok, Option.bind_eq_some_iff]
  constructor
  · intro found
    obtain ⟨inner, points, reads⟩ := found
    cases inner with
    | integer given =>
        rw [Json.asU64, Option.ite_none_right_eq_some] at reads
        obtain ⟨range, same⟩ := reads
        cases same
        rw [points, Json.ofNat, Int.toNat_of_nonneg range.1]
        exact ⟨rfl, by omega⟩
    | _ => cases reads
  · intro found
    refine ⟨_, found.1, ?_⟩
    rw [Json.ofNat, Json.asU64, if_pos ⟨by omega, by omega⟩]
    rfl

theorem i64At_eq_ok {number : Int} :
    i64At value pointer source = .ok number ↔
      value.pointer pointer = some (.integer number) ∧
        i64Min ≤ number ∧ number ≤ i64Max := by
  rw [i64At, require_eq_ok, Option.bind_eq_some_iff]
  constructor
  · intro found
    obtain ⟨inner, points, reads⟩ := found
    cases inner with
    | integer given =>
        rw [Json.asI64, Option.ite_none_right_eq_some] at reads
        obtain ⟨range, same⟩ := reads
        cases same
        exact ⟨points, range⟩
    | _ => cases reads
  · intro found
    exact ⟨_, found.1, if_pos found.2⟩

/-- The members that every record has. -/
structure CommonRecorded (value : Json) (schema campaignId : String) :
    Prop where
  schema : value.pointer ["schema"] = some (.string schema)
  version : value.pointer ["schema_version"] = some (.ofNat schemaVersion)
  campaign : value.pointer ["campaign_id"] = some (.string campaignId)

theorem validateCommon_eq_ok {schema : String} {unit : Unit} :
    validateCommon value schema campaignId source = .ok unit ↔
      CommonRecorded value schema campaignId := by
  simp only [validateCommon, bind_eq_ok, stringAt_eq_ok, u64At_eq_ok,
    ensure_eq_ok]
  constructor
  · intro validated
    obtain ⟨_, shown, _, rfl, _, version, _, rfl, _, campaign, rfl⟩ :=
      validated
    exact ⟨shown, version.1, campaign⟩
  · intro recorded
    exact ⟨_, recorded.schema, (), rfl, _, ⟨recorded.version, by decide⟩, (),
      rfl, _, recorded.campaign, rfl⟩

theorem positiveSequence_eq_ok {sequence : Nat} :
    positiveSequence value source = .ok sequence ↔
      value.pointer ["sequence"] = some (.ofNat sequence) ∧
        1 ≤ sequence ∧ sequence ≤ u64Max := by
  simp only [positiveSequence, bind_eq_ok, u64At_eq_ok, ensure_eq_ok,
    pure_eq_ok]
  constructor
  · intro read
    obtain ⟨_, ⟨shown, bounded⟩, _, nonzero, rfl⟩ := read
    exact ⟨shown, Nat.pos_of_ne_zero nonzero, bounded⟩
  · intro read
    obtain ⟨shown, positive, bounded⟩ := read
    exact ⟨_, ⟨shown, bounded⟩, (), Nat.ne_of_gt positive, rfl⟩

/-! ### Event lines -/

/-- A line of the log that is an event of the campaign, with its phase. -/
structure EventLine (setting : Setting) (campaignId : String) (line : Bytes)
    (phase : String) : Prop where
  text : ∃ text, JsonGrammar.decodeUtf8 line = some text ∧
    Text.isBlank text = false
  event : ∃ value sequence, setting.serde.value.read line = .ok value ∧
    CommonRecorded value eventSchema campaignId ∧
    value.pointer ["sequence"] = some (.ofNat sequence) ∧
    1 ≤ sequence ∧ sequence ≤ u64Max ∧
    value.pointer ["phase"] = some (.string phase)

section Events

variable {path phase : String} {lineNumber : Nat} {line : Bytes}
variable {counts result : LifecycleCounts}

theorem scanEvent_eq_ok :
    scanEvent setting path campaignId lineNumber line = .ok phase ↔
      EventLine setting campaignId line phase := by
  simp only [scanEvent, readLine, bind_eq_ok, require_eq_ok, ensure_eq_ok,
    context_eq_ok, validateCommon_eq_ok, positiveSequence_eq_ok,
    stringAt_eq_ok]
  constructor
  · intro scanned
    obtain ⟨value, ⟨text, decoded, _, notBlank, reads⟩, _, common, sequence,
      ⟨shown, positive, bounded⟩, phaseShown⟩ := scanned
    exact ⟨⟨text, decoded, notBlank⟩, value, sequence, reads, common, shown,
      positive, bounded, phaseShown⟩
  · intro isEvent
    obtain ⟨⟨text, decoded, notBlank⟩, value, sequence, reads, common, shown,
      positive, bounded, phaseShown⟩ := isEvent
    exact ⟨value, ⟨text, decoded, (), notBlank, reads⟩, (), common, sequence,
      ⟨shown, positive, bounded⟩, phaseShown⟩

theorem addPhase_counts (phase : String) (counts : LifecycleCounts)
    (rest : List String) :
    ({ terminalSuccess := (counts.addPhase phase).terminalSuccess +
          rest.count terminalSuccessPhase
       terminalFailure := (counts.addPhase phase).terminalFailure +
          rest.count terminalFailurePhase } : LifecycleCounts) =
      { terminalSuccess := counts.terminalSuccess +
          (phase :: rest).count terminalSuccessPhase
        terminalFailure := counts.terminalFailure +
          (phase :: rest).count terminalFailurePhase } := by
  have different : terminalSuccessPhase ≠ terminalFailurePhase := by decide
  unfold LifecycleCounts.addPhase
  by_cases success : phase = terminalSuccessPhase
  · have notFailure : phase ≠ terminalFailurePhase := by
      rw [success]
      exact different
    rw [if_pos success, success, List.count_cons_self,
      List.count_cons_of_ne different, LifecycleCounts.mk.injEq]
    exact ⟨Nat.add_right_comm _ 1 _, rfl⟩
  · rw [if_neg success, List.count_cons_of_ne success]
    by_cases failure : phase = terminalFailurePhase
    · rw [if_pos failure, failure, List.count_cons_self,
        LifecycleCounts.mk.injEq]
      exact ⟨rfl, Nat.add_right_comm _ 1 _⟩
    · rw [if_neg failure, List.count_cons_of_ne failure]

theorem scanEventLines_eq_ok {lines : List Bytes} :
    scanEventLines setting path campaignId lineNumber lines counts =
        .ok result ↔
      ∃ phases, List.Forall₂ (EventLine setting campaignId) lines phases ∧
        result =
          { terminalSuccess := counts.terminalSuccess +
              phases.count terminalSuccessPhase
            terminalFailure := counts.terminalFailure +
              phases.count terminalFailurePhase } := by
  induction lines generalizing lineNumber counts with
  | nil =>
      constructor
      · intro scanned
        cases scanned
        exact ⟨[], .nil, rfl⟩
      · intro scanned
        obtain ⟨phases, related, same⟩ := scanned
        cases related
        rw [same]
        rfl
  | cons line rest ih =>
      rw [scanEventLines, bind_eq_ok]
      simp only [ih, scanEvent_eq_ok]
      constructor
      · intro scanned
        obtain ⟨phase, isEvent, phases, related, same⟩ := scanned
        exact ⟨phase :: phases, .cons isEvent related,
          same.trans (addPhase_counts phase counts phases)⟩
      · intro scanned
        obtain ⟨phases, related, same⟩ := scanned
        cases related with
        | @cons _ phase _ others isEvent related =>
            exact ⟨phase, isEvent, others, related,
              same.trans (addPhase_counts phase counts others).symm⟩

theorem scanEvents_eq_ok {log : Option Bytes} :
    scanEvents setting path campaignId log = .ok result ↔
      ∃ bytes phases, log = some bytes ∧
        List.Forall₂ (EventLine setting campaignId) (LineLog.lines bytes)
          phases ∧
        result =
          { terminalSuccess := phases.count terminalSuccessPhase
            terminalFailure := phases.count terminalFailurePhase } := by
  simp only [scanEvents, bind_eq_ok, require_eq_ok, scanEventLines_eq_ok,
    Nat.zero_add]
  constructor
  · intro scanned
    obtain ⟨bytes, present, phases, related, same⟩ := scanned
    exact ⟨bytes, phases, present, related, same⟩
  · intro scanned
    obtain ⟨bytes, phases, present, related, same⟩ := scanned
    exact ⟨bytes, present, phases, related, same⟩

end Events

/-! ### Documents of iterations -/

@[simp] theorem violationUnless_eq_nil {condition : Prop}
    [Decidable condition] {violation : String} :
    violationUnless condition violation = [] ↔ condition := by
  unfold violationUnless
  by_cases holds : condition <;> simp [holds]

/-- A child that ended as expected is no violation. -/
theorem validateChildSuccess_silent {expected : Bool} {sequence : Nat}
    {label : String} :
    validateChildSuccess value pointer expected sequence label source =
        .ok [] ↔
      value.pointer pointer = some (.bool expected) := by
  simp only [validateChildSuccess, bind_eq_ok, boolAt_eq_ok, pure_eq_ok,
    violationUnless_eq_nil]
  constructor
  · intro found
    obtain ⟨_, shown, rfl⟩ := found
    exact shown
  · intro shown
    exact ⟨_, shown, rfl⟩

/-- A number of deleted rows is there. -/
def DeletedRows (value : Json) : Prop :=
  ∃ rows ≤ u64Max,
    value.pointer ["execution", "result", "cleanup_deleted_rows"] =
      some (.ofNat rows)

/-- A clean execution whose children succeeded. -/
structure CleanRecorded (value : Json) : Prop where
  kind : value.pointer ["execution", "kind"] = some (.string "clean")
  run : value.pointer ["execution", "result", "run", "success"] =
    some (.bool true)
  verification : value.pointer
    ["execution", "result", "verification", "success"] = some (.bool true)
  deleted : DeletedRows value

/-- A crash by SIGKILL and the recovery from it. -/
structure CrashRecorded (value : Json) (failure : EnduranceFailure) :
    Prop where
  kind : value.pointer ["execution", "kind"] = some (.string "crash")
  failure : value.pointer ["execution", "result", "failure"] =
    some (.string failure.name)
  crashed : value.pointer ["execution", "result", "crash", "success"] =
    some (.bool false)
  reaped : value.pointer ["execution", "result", "crash", "reaped"] =
    some (.bool true)
  signal : value.pointer ["execution", "result", "crash", "signal"] =
    some (.integer 9)
  relaunch : value.pointer
    ["execution", "result", "plain_relaunch", "success"] = some (.bool false)
  recovery : value.pointer ["execution", "result", "recovery", "success"] =
    some (.bool true)
  continuation : value.pointer
    ["execution", "result", "continuation", "success"] = some (.bool true)
  verification : value.pointer
    ["execution", "result", "verification", "success"] = some (.bool true)
  deleted : DeletedRows value
  status : ∃ status, value.pointer
    ["execution", "result", "post_crash", "execution_status"] =
      some (.string status) ∧ isRecoveryRequiredStatus status = true

/-- The counts of one execution of a kind. -/
def plannedCounts (failure : EnduranceFailure) : ExecutionCounts :=
  { clean := if failure = .clean then 1 else 0
    beforeCommitCrash := if failure = .beforeCommit then 1 else 0
    afterCommitCrash := if failure = .afterCommit then 1 else 0 }

section Judge

variable {plan : IterationPlan} {sequence : Nat} {counts : ExecutionCounts}

theorem judgeClean_silent :
    judgeClean value plan sequence source = .ok (counts, []) ↔
      plan.failure = .clean ∧ counts = plannedCounts .clean ∧
        value.pointer ["execution", "result", "run", "success"] =
          some (.bool true) ∧
        value.pointer ["execution", "result", "verification", "success"] =
          some (.bool true) ∧
        DeletedRows value := by
  simp only [judgeClean, bind_eq_ok, u64At_eq_ok, pure_eq_ok, Prod.mk.injEq,
    List.append_eq_nil_iff, violationUnless_eq_nil]
  constructor
  · intro judged
    obtain ⟨_, run, _, verification, rows, deleted, same,
      ⟨planned, rfl⟩, rfl⟩ := judged
    exact ⟨planned, same.symm, validateChildSuccess_silent.mp run,
      validateChildSuccess_silent.mp verification, rows, deleted.2, deleted.1⟩
  · intro recorded
    obtain ⟨planned, same, run, verification, rows, bounded, deleted⟩ :=
      recorded
    exact ⟨[], validateChildSuccess_silent.mpr run, [],
      validateChildSuccess_silent.mpr verification, rows, ⟨deleted, bounded⟩,
      same.symm, ⟨planned, rfl⟩, rfl⟩

theorem crashCounts_planned {failure : EnduranceFailure}
    (crash : failure ≠ .clean) :
    crashCounts failure.name failure = plannedCounts failure := by
  cases failure with
  | clean => exact absurd rfl crash
  | beforeCommit => rfl
  | afterCommit => rfl

theorem judgeCrash_silent :
    judgeCrash value plan sequence source = .ok (counts, []) ∧
        value.pointer ["execution", "kind"] = some (.string "crash") ↔
      plan.failure ≠ .clean ∧ counts = plannedCounts plan.failure ∧
        CrashRecorded value plan.failure := by
  simp only [judgeCrash, bind_eq_ok, stringAt_eq_ok, boolAt_eq_ok,
    i64At_eq_ok, u64At_eq_ok, pure_eq_ok, Prod.mk.injEq,
    List.append_eq_nil_iff, violationUnless_eq_nil]
  constructor
  · intro judged
    obtain ⟨⟨_, failure, _, crash, _, reaped, _, signal, _, relaunch, _,
      recovery, _, continuation, _, verification, rows, deleted, status,
      shown, same, quiet⟩, kind⟩ := judged
    obtain ⟨⟨⟨⟨⟨⟨⟨⟨⟨rfl, planned⟩, rfl⟩, rfl⟩, rfl⟩, rfl⟩, rfl⟩, rfl⟩, rfl⟩,
      required⟩ := quiet
    rw [crashCounts_planned planned] at same
    exact ⟨planned, same.symm,
      { kind := kind
        failure := failure
        crashed := validateChildSuccess_silent.mp crash
        reaped := reaped
        signal := signal.1
        relaunch := validateChildSuccess_silent.mp relaunch
        recovery := validateChildSuccess_silent.mp recovery
        continuation := validateChildSuccess_silent.mp continuation
        verification := validateChildSuccess_silent.mp verification
        deleted := ⟨rows, deleted.2, deleted.1⟩
        status := ⟨status, shown, required⟩ }⟩
  · intro judged
    obtain ⟨planned, same, recorded⟩ := judged
    obtain ⟨rows, bounded, deleted⟩ := recorded.deleted
    obtain ⟨status, shown, required⟩ := recorded.status
    refine ⟨⟨_, recorded.failure, [],
      validateChildSuccess_silent.mpr recorded.crashed, _, recorded.reaped, 9,
      ⟨recorded.signal, by decide⟩, [],
      validateChildSuccess_silent.mpr recorded.relaunch, [],
      validateChildSuccess_silent.mpr recorded.recovery, [],
      validateChildSuccess_silent.mpr recorded.continuation, [],
      validateChildSuccess_silent.mpr recorded.verification, rows,
      ⟨deleted, bounded⟩, status, shown, ?_, ?_⟩, recorded.kind⟩
    · rw [same]
      exact crashCounts_planned planned
    · exact ⟨⟨⟨⟨⟨⟨⟨⟨⟨rfl, planned⟩, rfl⟩, rfl⟩, rfl⟩, rfl⟩, rfl⟩, rfl⟩, rfl⟩,
        required⟩

/-- An execution as the plan asks for. -/
structure ExecutedAsPlanned (value : Json) (failure : EnduranceFailure) :
    Prop where
  clean : failure = .clean → CleanRecorded value
  crash : failure ≠ .clean → CrashRecorded value failure

theorem judgeExecution_silent :
    judgeExecution value plan sequence source = .ok (counts, []) ↔
      counts = plannedCounts plan.failure ∧
        ExecutedAsPlanned value plan.failure := by
  rw [judgeExecution, bind_eq_ok]
  constructor
  · intro judged
    obtain ⟨kind, shown, rest⟩ := judged
    rw [stringAt_eq_ok] at shown
    split_ifs at rest with isClean isCrash
    · rw [isClean] at shown
      obtain ⟨planned, same, run, verification, deleted⟩ :=
        judgeClean_silent.mp rest
      rw [planned]
      exact ⟨same, fun _ => ⟨shown, run, verification, deleted⟩,
        fun other => absurd rfl other⟩
    · rw [isCrash] at shown
      obtain ⟨planned, same, recorded⟩ := judgeCrash_silent.mp ⟨rest, shown⟩
      exact ⟨same, fun other => absurd other planned, fun _ => recorded⟩
    · rw [pure_eq_ok] at rest
      cases rest
  · intro judged
    obtain ⟨same, executed⟩ := judged
    by_cases planned : plan.failure = .clean
    · have recorded := executed.clean planned
      rw [planned] at same
      exact ⟨_, stringAt_eq_ok.mpr recorded.kind, judgeClean_silent.mpr
        ⟨planned, same, recorded.run, recorded.verification,
          recorded.deleted⟩⟩
    · have recorded := executed.crash planned
      exact ⟨_, stringAt_eq_ok.mpr recorded.kind,
        (judgeCrash_silent.mpr ⟨planned, same, recorded⟩).1⟩

/-- The document of an iteration that went as planned. -/
structure RecordedAsPlanned (value : Json) (plan : IterationPlan) :
    Prop where
  sequence : value.pointer ["execution", "result", "sequence"] =
    some (.ofNat plan.sequence)
  reader : value.pointer ["execution", "result", "reader"] =
    some (.string plan.reader.asStr)
  importName : value.pointer ["execution", "result", "import_name"] =
    some (.string plan.importName)
  executed : ExecutedAsPlanned value plan.failure

/-- What an iteration that went as planned adds. -/
def plannedScan (plan : IterationPlan) : IterationScan :=
  { readers :=
      { cursor := if plan.reader = .cursor then 1 else 0
        paging := if plan.reader = .paging then 1 else 0 }
    executions := plannedCounts plan.failure
    violations := [] }

/-- A reader is counted under its name. -/
theorem readers_counted (reader : EnduranceReader) :
    ({ cursor := if reader.asStr = "cursor" then 1 else 0
       paging := if reader.asStr = "paging" then 1 else 0 } : ReaderCounts) =
      { cursor := if reader = .cursor then 1 else 0
        paging := if reader = .paging then 1 else 0 } := by
  cases reader <;> decide

theorem asStr_known (reader : EnduranceReader) :
    reader.asStr = "cursor" ∨ reader.asStr = "paging" := by
  cases reader with
  | cursor => exact Or.inl rfl
  | paging => exact Or.inr rfl

theorem judgeIteration_silent {found : IterationScan} :
    judgeIteration value campaignId sequence source = .ok found ∧
        found.violations = [] ∧ sequence ≤ u64Max ↔
      ValidCampaignId campaignId ∧ 1 ≤ sequence ∧ sequence ≤ u64Max ∧
        found = plannedScan (planOf campaignId sequence) ∧
        RecordedAsPlanned value (planOf campaignId sequence) := by
  simp only [judgeIteration, bind_eq_ok, stringAt_eq_ok, u64At_eq_ok,
    pure_eq_ok, planIteration_eq_ok]
  constructor
  · intro judged
    obtain ⟨⟨_, ⟨valid, positive, rfl⟩, number, numberShown, reader,
      readerShown, name, nameShown, ⟨counts, violations⟩, execution, rfl⟩,
      quiet, bounded⟩ := judged
    have silent := quiet
    simp only [List.append_eq_nil_iff, violationUnless_eq_nil] at silent
    obtain ⟨⟨⟨⟨sameNumber, _⟩, sameReader⟩, sameName⟩, noMore⟩ := silent
    rw [noMore] at execution
    obtain ⟨sameCounts, executed⟩ := judgeExecution_silent.mp execution
    refine ⟨valid, positive, bounded, ?_, ?_, ?_, ?_, executed⟩
    · rw [plannedScan, IterationScan.mk.injEq]
      refine ⟨?_, sameCounts, quiet⟩
      rw [sameReader]
      exact readers_counted _
    · rw [numberShown.1, sameNumber]
      rfl
    · rw [readerShown, sameReader]
    · rw [nameShown, sameName]
  · intro recorded
    obtain ⟨valid, positive, bounded, same, planned⟩ := recorded
    refine ⟨⟨_, ⟨valid, positive, rfl⟩, _, ⟨planned.sequence, bounded⟩, _,
      planned.reader, _, planned.importName, (_, []),
      judgeExecution_silent.mpr ⟨rfl, planned.executed⟩, ?_⟩, ?_, bounded⟩
    · rw [same, plannedScan, IterationScan.mk.injEq]
      refine ⟨readers_counted _, rfl, ?_⟩
      simp only [List.append_eq_nil_iff, violationUnless_eq_nil]
      exact ⟨⟨⟨⟨rfl, asStr_known _⟩, trivial⟩, trivial⟩, trivial⟩
    · rw [same]
      rfl

end Judge

/-! ### Files of iterations -/

/-- The file of an iteration that went as planned. -/
structure FileAsPlanned (setting : Setting) (campaignId : String)
    (entries : Entries) (sequence : Nat) (value : Json) : Prop where
  content : ∃ bytes,
    fileContent (iterationFileName sequence) entries = some bytes ∧
      setting.serde.value.read bytes = .ok value
  common : CommonRecorded value iterationSchema campaignId
  numbered : value.pointer ["sequence"] = some (.ofNat sequence)
  terminal : value.pointer ["terminal"] = some (.string "success")
  planned : RecordedAsPlanned value (planOf campaignId sequence)

section Files

variable {dir : String} {entries : Entries} {sequence : Nat}
variable {scan found result : IterationScan}

theorem readFile_eq_ok {path name : String} {bytes : Bytes} :
    readFile path name entries = .ok bytes ↔
      fileContent name entries = some bytes := by
  unfold readFile
  cases fileContent name entries with
  | some content => simp
  | none => split_ifs <;> simp

theorem scanIteration_silent :
    scanIteration setting dir campaignId entries sequence = .ok found ∧
        found.violations = [] ↔
      ValidCampaignId campaignId ∧ 1 ≤ sequence ∧ sequence ≤ u64Max ∧
        found = plannedScan (planOf campaignId sequence) ∧
        ∃ value, FileAsPlanned setting campaignId entries sequence value := by
  simp only [scanIteration, bind_eq_ok, context_eq_ok, readFile_eq_ok,
    validateCommon_eq_ok, positiveSequence_eq_ok, ensure_eq_ok,
    stringAt_eq_ok]
  constructor
  · intro scanned
    obtain ⟨⟨bytes, content, value, reads, _, common, recorded,
      ⟨shown, _, bounded⟩, _, same, terminal, terminalShown, _, success,
      judged⟩, quiet⟩ := scanned
    subst same
    rw [success] at terminalShown
    obtain ⟨valid, positive, _, sameScan, planned⟩ :=
      judgeIteration_silent.mp ⟨judged, quiet, bounded⟩
    exact ⟨valid, positive, bounded, sameScan, value,
      ⟨bytes, content, reads⟩, common, shown, terminalShown, planned⟩
  · intro recorded
    obtain ⟨valid, positive, bounded, same, value, file⟩ := recorded
    obtain ⟨bytes, content, reads⟩ := file.content
    obtain ⟨judged, quiet, _⟩ := judgeIteration_silent.mpr
      ⟨valid, positive, bounded, same, file.planned⟩
    exact ⟨⟨bytes, content, value, reads, (), file.common, sequence,
      ⟨file.numbered, positive, bounded⟩, (), rfl, "success", file.terminal,
      (), rfl, judged⟩, quiet⟩

/-- What some iterations that went as planned add. -/
def plannedScans (campaignId : String) (sequences : List Nat)
    (scan : IterationScan) : IterationScan :=
  sequences.foldl (fun scan sequence =>
    scan.add (plannedScan (planOf campaignId sequence))) scan

theorem scanSequences_silent {sequences : List Nat} :
    scanSequences setting dir campaignId entries sequences scan =
        .ok result ∧ result.violations = [] ↔
      scan.violations = [] ∧
        result = plannedScans campaignId sequences scan ∧
        ∀ sequence ∈ sequences, ValidCampaignId campaignId ∧ 1 ≤ sequence ∧
          sequence ≤ u64Max ∧
          ∃ value, FileAsPlanned setting campaignId entries sequence
            value := by
  induction sequences generalizing scan with
  | nil =>
      constructor
      · intro scanned
        obtain ⟨same, quiet⟩ := scanned
        cases same
        exact ⟨quiet, rfl, by simp⟩
      · intro scanned
        obtain ⟨quiet, same, _⟩ := scanned
        rw [same]
        exact ⟨rfl, quiet⟩
  | cons sequence rest ih =>
      rw [scanSequences, bind_eq_ok, List.forall_mem_cons]
      constructor
      · intro scanned
        obtain ⟨⟨found, first, others⟩, quiet⟩ := scanned
        obtain ⟨both, same, files⟩ := ih.mp ⟨others, quiet⟩
        obtain ⟨before, silent⟩ := List.append_eq_nil_iff.mp both
        obtain ⟨valid, positive, bounded, sameScan, file⟩ :=
          scanIteration_silent.mp ⟨first, silent⟩
        rw [sameScan] at same
        exact ⟨before, same, ⟨valid, positive, bounded, file⟩, files⟩
      · intro scanned
        obtain ⟨before, same, ⟨valid, positive, bounded, file⟩, files⟩ :=
          scanned
        obtain ⟨first, silent⟩ := scanIteration_silent.mpr
          ⟨valid, positive, bounded, rfl, file⟩
        obtain ⟨others, quiet⟩ := ih.mpr
          ⟨List.append_eq_nil_iff.mpr ⟨before, silent⟩, same, files⟩
        exact ⟨⟨_, first, others⟩, quiet⟩

end Files

/-! ### Counts of the schedule -/

theorem plannedScans_counts (campaignId : String) (sequences : List Nat)
    (scan : IterationScan) :
    plannedScans campaignId sequences scan =
      { readers :=
          { cursor := scan.readers.cursor +
              sequences.countP (fun sequence => sequence % 2 = 1)
            paging := scan.readers.paging +
              sequences.countP (fun sequence => sequence % 2 = 0) }
        executions :=
          { clean := scan.executions.clean + sequences.countP
              (fun sequence => sequence % 50 ≠ 24 ∧ sequence % 50 ≠ 49)
            beforeCommitCrash := scan.executions.beforeCommitCrash +
              sequences.countP (fun sequence => sequence % 50 = 24)
            afterCommitCrash := scan.executions.afterCommitCrash +
              sequences.countP (fun sequence => sequence % 50 = 49) }
        violations := scan.violations } := by
  induction sequences generalizing scan with
  | nil => rfl
  | cons sequence rest ih =>
      have first : plannedScans campaignId (sequence :: rest) scan =
          plannedScans campaignId rest
            (scan.add (plannedScan (planOf campaignId sequence))) := rfl
      rw [first, ih]
      simp only [List.countP_cons, IterationScan.add, plannedScan,
        plannedCounts, planOf, scheduledReader, scheduledFailure,
        IterationScan.mk.injEq, ReaderCounts.mk.injEq,
        ExecutionCounts.mk.injEq, List.append_nil, decide_eq_true_eq]
      refine ⟨⟨?_, ?_⟩, ⟨?_, ?_, ?_⟩, trivial⟩
      · split_ifs <;> first | contradiction | omega
      · split_ifs <;> first | contradiction | omega
      · split_ifs <;> first | contradiction | omega
      · split_ifs <;> first | contradiction | omega
      · split_ifs <;> first | contradiction | omega

/-- Of the first sequences every second one reads with a cursor. -/
theorem readers_upTo (frontier : Nat) :
    (List.range' 1 frontier).countP (fun sequence => sequence % 2 = 1) =
        (frontier + 1) / 2 ∧
      (List.range' 1 frontier).countP (fun sequence => sequence % 2 = 0) =
        frontier / 2 := by
  induction frontier with
  | zero => exact ⟨rfl, rfl⟩
  | succ frontier ih =>
      rw [List.range'_concat, List.countP_append, List.countP_append, ih.1,
        ih.2]
      simp only [List.countP_singleton, decide_eq_true_eq]
      constructor
      · split_ifs <;> omega
      · split_ifs <;> omega

/-! ### The snapshot and the reasons -/

section Collection

variable {disk : CampaignDir} {snapshot : EvidenceSnapshot}
variable {policy : SummaryAcceptancePolicy} {observedAt : Nat}
variable {database : DatabaseReconciliation} {summary : CampaignSummary}

theorem lifecycleViolations_eq_nil {lifecycle : LifecycleCounts}
    {failures : FailureCounts} {frontier : Nat} :
    lifecycleViolations lifecycle failures frontier = [] ↔
      lifecycle.terminalSuccess = frontier ∧
        lifecycle.terminalFailure = failures.total := by
  rw [lifecycleViolations, List.append_eq_nil_iff, violationUnless_eq_nil,
    violationUnless_eq_nil]

/-- A snapshot is what the scanners found. -/
structure Collected (setting : Setting) (campaignId : String)
    (disk : CampaignDir) (snapshot : EvidenceSnapshot) : Prop where
  loads : loadExistingCampaignReadonly setting campaignId disk =
    .ok snapshot.campaign
  supported : snapshot.campaign.schema = campaignSchema ∧
    snapshot.campaign.schemaVersion = schemaVersion
  resume : reconcileResumeStatus setting campaignId disk =
    .ok snapshot.resume
  events : scanEvents setting (setting.eventsPath campaignId) campaignId
    disk.events = .ok snapshot.lifecycle
  failures : scanFailures setting (setting.failuresDir campaignId) campaignId
    disk.failures = .ok snapshot.failures
  iterations : ∃ violations,
    scanIterations setting (setting.iterationsDir campaignId) campaignId
        (disk.iterations.getD []) snapshot.resume.frontierSequence =
      .ok
        { readers := snapshot.readers
          executions := snapshot.executions
          violations := violations } ∧
    snapshot.semanticViolations = violations ++
      lifecycleViolations snapshot.lifecycle snapshot.failures
        snapshot.resume.frontierSequence
  samples : scanSamples setting (setting.samplesPath campaignId) campaignId
    disk.samples = .ok snapshot.resources

theorem collectEvidence_eq_ok :
    collectEvidence setting campaignId disk = .ok snapshot ↔
      Collected setting campaignId disk snapshot := by
  simp only [collectEvidence, bind_eq_ok, ensure_eq_ok, pure_eq_ok]
  constructor
  · intro collects
    obtain ⟨campaign, loads, _, supported, resume, reports, lifecycle, events,
      failures, failed, scan, iterations, resources, samples, rfl⟩ := collects
    exact ⟨loads, supported, reports, events, failed,
      ⟨scan.violations, iterations, rfl⟩, samples⟩
  · intro collected
    obtain ⟨violations, iterations, same⟩ := collected.iterations
    refine ⟨_, collected.loads, (), collected.supported, _, collected.resume,
      _, collected.events, _, collected.failures, _, iterations, _,
      collected.samples, ?_⟩
    rw [← same]

theorem mem_pushWhen {condition : Prop} [Decidable condition]
    {reason pushed : SummaryReasonCode} {codes : List SummaryReasonCode} :
    reason ∈ pushWhen condition pushed codes ↔
      reason ∈ codes ∨ condition ∧ reason = pushed := by
  unfold pushWhen pushReason
  by_cases holds : condition
  · rw [if_pos holds, and_iff_right holds]
    split_ifs with listed
    · refine (or_iff_left_of_imp fun same => ?_).symm
      rw [same]
      exact listed
    · rw [List.mem_append, List.mem_singleton]
  · rw [if_neg holds]
    exact (or_iff_left fun both => holds both.1).symm

/-- The reasons that come from the evidence. -/
theorem mem_reasonCodes {elapsedNanos minimumElapsedNanos : Nat} :
    (.evidenceSemanticMismatch ∈ reasonCodes snapshot policy elapsedNanos
        minimumElapsedNanos database ↔ snapshot.semanticViolations ≠ []) ∧
      (.unexpectedTerminalFailureEvidence ∈ reasonCodes snapshot policy
          elapsedNanos minimumElapsedNanos database ↔
        0 < snapshot.lifecycle.terminalFailure ∨
          0 < snapshot.failures.total) ∧
      (.durableResumeNotReady ∈ reasonCodes snapshot policy elapsedNanos
          minimumElapsedNanos database ↔ snapshot.resume.state ≠ .ready) := by
  simp only [reasonCodes, mem_pushWhen, List.not_mem_nil, reduceCtorEq,
    and_false, and_true, or_false, false_or]

/-- The summary that a finalization returns. -/
theorem finalizeSummary_returned {world after : World}
    (returned : finalizeSummary setting snapshot policy observedAt database
      world = (.ok summary, after)) :
    ∃ path elapsedNanos minimumElapsedNanos,
      summary = summaryOf path snapshot policy observedAt elapsedNanos
        minimumElapsedNanos database := by
  obtain ⟨minimumElapsedNanos, _, _, rest⟩ := bind_returned.mp returned
  obtain ⟨_, _, _, rest⟩ := bind_returned.mp rest
  obtain ⟨_, _, _, rest⟩ := bind_returned.mp rest
  obtain ⟨same, _⟩ := pure_returned.mp rest
  exact ⟨_, _, minimumElapsedNanos, same⟩

end Collection

end Summary

end Endurance
