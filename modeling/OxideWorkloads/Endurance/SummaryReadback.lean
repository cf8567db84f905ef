/-
What honest invocations write is what the summary accepts.

An event and an iteration singleton of the store are read back, member by
member, as the scanners of the summary ask for them; a history of invocations
that returned adds one planned iteration and one success for each sequence.
-/

import OxideWorkloads.Endurance.Invocations
import OxideWorkloads.Endurance.SummaryScans

namespace Endurance

namespace Summary

open Foundation
open Foundation.Checks
open Foundation.LineLog (Bytes newline Terminated)
open Foundation.JsonGrammar (objectFraming nestingLimit)

variable {setting : Setting} {campaignId : String} {sequence frontier : Nat}

/-! ### Written documents -/

/-- The members of an event that the summary looks at. -/
theorem eventJson_members (timestamp : Nat) (campaignId : String)
    (sequence : Nat) (phase : String) (detail : Json) :
    CommonRecorded (eventJson timestamp campaignId sequence phase detail)
        eventSchema campaignId ∧
      (eventJson timestamp campaignId sequence phase detail).pointer
          ["sequence"] = some (.ofNat sequence) ∧
      (eventJson timestamp campaignId sequence phase detail).pointer
          ["phase"] = some (.string phase) :=
  ⟨⟨rfl, rfl, rfl⟩, rfl, rfl⟩

theorem eventLine_written {phase : String} {line : Bytes}
    (isEvent : IsEvent campaignId sequence phase line)
    (positive : 1 ≤ sequence) (bounded : sequence ≤ u64Max) :
    EventLine setting campaignId line phase := by
  have isRecord := isEvent.record bounded
  obtain ⟨timestamp, detail, rfl, isPlain⟩ := isEvent.plain bounded
  obtain ⟨text, decoded, _, notBlank⟩ :=
    JsonGrammar.decodeUtf8_object isPlain isRecord.1
  obtain ⟨common, shown, phaseShown⟩ :=
    eventJson_members timestamp campaignId sequence phase detail
  exact ⟨⟨text, decoded, notBlank⟩, _, sequence,
    setting.serde.value.read_compact isPlain, common, shown, positive,
    bounded, phaseShown⟩

/-- The statuses in which a crash is recorded are those that a summary
expects. -/
theorem recoveryRequired_status {status : String}
    (required : recoveryRequired status = true) :
    isRecoveryRequiredStatus status = true := by
  simp only [recoveryRequired, Bool.or_eq_true, decide_eq_true_eq]
    at required
  obtain (rfl | rfl) | rfl := required
  · decide
  · decide
  · decide

theorem deletedRows_bounded (rows : UInt64) : rows.toNat ≤ u64Max := by
  have small := rows.toNat_lt
  simp only [u64Max]
  omega

/-- A clean result is recorded as its plan asks for. -/
theorem clean_recorded {plan : IterationPlan}
    {result : CleanIterationResult} (follows : result.Follows plan)
    (timestamp : Nat) :
    RecordedAsPlanned
      (iterationJson timestamp campaignId sequence (.clean result)) plan where
  sequence := congrArg (fun number => some (Json.ofNat number))
    follows.sequence
  reader := congrArg
    (fun reader : EnduranceReader => some (Json.string reader.asStr))
    follows.reader
  importName := congrArg (fun name => some (Json.string name))
    follows.importName
  executed :=
    { clean := fun _ =>
        { kind := rfl
          run := congrArg (fun flag => some (Json.bool flag)) follows.run
          verification :=
            congrArg (fun flag => some (Json.bool flag)) follows.verification
          deleted := ⟨result.cleanupDeletedRows.toNat,
            deletedRows_bounded _, rfl⟩ }
      crash := fun other => absurd follows.planned other }

/-- So is a crash result. -/
theorem crash_recorded {plan : IterationPlan}
    {result : CrashIterationResult} (follows : result.Follows plan)
    (timestamp : Nat) :
    RecordedAsPlanned
      (iterationJson timestamp campaignId sequence (.crash result)) plan where
  sequence := congrArg (fun number => some (Json.ofNat number))
    follows.sequence
  reader := congrArg
    (fun reader : EnduranceReader => some (Json.string reader.asStr))
    follows.reader
  importName := congrArg (fun name => some (Json.string name))
    follows.importName
  executed :=
    { clean := fun other => absurd other follows.planned
      crash := fun _ =>
        { kind := rfl
          failure := congrArg
            (fun failure : EnduranceFailure =>
              some (Json.string failure.name)) follows.failure
          crashed := congrArg (fun flag => some (Json.bool flag))
            follows.crashed
          reaped := congrArg (fun flag => some (Json.bool flag))
            follows.reaped
          signal := congrArg (fun code => some (jsonCode code))
            follows.signal
          relaunch := congrArg (fun flag => some (Json.bool flag))
            follows.plainRelaunch
          recovery := congrArg (fun flag => some (Json.bool flag))
            follows.recovery
          continuation := congrArg (fun flag => some (Json.bool flag))
            follows.continuation
          verification := congrArg (fun flag => some (Json.bool flag))
            follows.verification
          deleted := ⟨result.cleanupDeletedRows.toNat,
            deletedRows_bounded _, rfl⟩
          status := ⟨result.postCrash.executionStatus, rfl,
            recoveryRequired_status follows.postCrash⟩ } }

/-- The file of an execution that follows its plan. -/
theorem fileAsPlanned_written {entries : Entries} {content : Bytes}
    {execution : RecordedExecutionResult}
    (file : fileContent (iterationFileName sequence) entries = some content)
    (follows : execution.Follows (planOf campaignId sequence))
    (isIteration : IsIteration campaignId sequence execution content)
    (bounded : sequence ≤ u64Max) :
    ∃ value, FileAsPlanned setting campaignId entries sequence value := by
  obtain ⟨timestamp, inTime, rfl⟩ := isIteration
  have reads : setting.serde.value.read
      (Json.pretty (iterationJson timestamp campaignId sequence execution) ++
        [newline]) =
        .ok (iterationJson timestamp campaignId sequence execution) :=
    setting.serde.value.read_pretty (plain_iteration 123 campaignId bounded
      inTime (follows.bounded bounded))
  refine ⟨_, ⟨_, file, reads⟩, ⟨rfl, rfl, rfl⟩, rfl, rfl, ?_⟩
  cases execution with
  | clean result => exact clean_recorded follows timestamp
  | crash result => exact crash_recorded follows timestamp

/-! ### Honest evidence -/

/-- A line that is an event of one of the sequences. -/
def EventOf (campaignId : String) (line : Bytes) (phase : String) : Prop :=
  ∃ sequence, 1 ≤ sequence ∧ sequence ≤ u64Max ∧
    IsEvent campaignId sequence phase line

/-- The evidence of executed sequences, as the store writes it. -/
structure Honest (setting : Setting) (campaignId : String)
    (disk : CampaignDir) (frontier : Nat) (log : Bytes) (entries : Entries)
    (done : List Nat) : Prop where
  recorded : Recorded setting campaignId disk frontier log entries done
  terminated : Terminated log
  events : ∃ phases,
    List.Forall₂ (EventOf campaignId) (LineLog.lines log) phases ∧
    phases.count terminalSuccessPhase = frontier ∧
    phases.count terminalFailurePhase = 0
  files : ∀ sequence, 1 ≤ sequence → sequence ≤ frontier →
    ∃ content execution,
      fileContent (iterationFileName sequence) entries = some content ∧
      RecordedExecutionResult.Follows (planOf campaignId sequence)
        execution ∧
      IsIteration campaignId sequence execution content

section Scanned

variable {disk : CampaignDir} {log : Bytes} {entries : Entries}
variable {done : List Nat}

theorem Honest.scanEvents
    (honest : Honest setting campaignId disk frontier log entries done)
    (path : String) :
    scanEvents setting path campaignId disk.events =
      .ok { terminalSuccess := frontier, terminalFailure := 0 } := by
  obtain ⟨phases, lines, success, failure⟩ := honest.events
  refine scanEvents_eq_ok.mpr ⟨log, phases, honest.recorded.events,
    lines.imp (fun line phase isEvent => ?_), ?_⟩
  · obtain ⟨sequence, positive, bounded, isEvent⟩ := isEvent
    exact eventLine_written isEvent positive bounded
  · rw [success, failure]

theorem Honest.scanFailures
    (honest : Honest setting campaignId disk frontier log entries done)
    (dir : String) :
    scanFailures setting dir campaignId disk.failures =
      .ok { total := 0
            harnessEnvironment := 0
            workloadChild := 0
            verification := 0 } := by
  rw [honest.recorded.failures]
  rfl

theorem Honest.scanIterations
    (honest : Honest setting campaignId disk frontier log entries done)
    (valid : ValidCampaignId campaignId) (bounded : frontier ≤ u64Max)
    (dir : String) :
    scanIterations setting dir campaignId (disk.iterations.getD [])
        frontier =
        .ok (plannedScans campaignId (List.range' 1 frontier) .none) ∧
      (plannedScans campaignId (List.range' 1 frontier) .none).violations =
        [] := by
  refine scanSequences_silent.mpr ⟨rfl, rfl, fun sequence member => ?_⟩
  obtain ⟨low, high⟩ := mem_upTo.mp member
  obtain ⟨content, execution, file, follows, isIteration⟩ :=
    honest.files sequence low high
  have small := high.trans bounded
  rw [honest.recorded.iterations]
  exact ⟨valid, low, small,
    fileAsPlanned_written file follows isIteration small⟩

end Scanned

/-! ### Histories -/

/-- Invocations that returned with one sequence after the other; an attempt
that left the campaign ready where it was may stand between them. -/
inductive History (setting : Setting) (campaignId : String) :
    Nat → CampaignDir → Prop where
  | opened {disk : CampaignDir} (ready : Ready setting campaignId disk 0) :
      History setting campaignId 0 disk
  | executed {frontier : Nat} {disk : CampaignDir} {result : RunNextResult}
      {after : World} (earlier : History setting campaignId frontier disk)
      (invocation : Invocation)
      (returned : executeNextSampledRecordedIteration setting campaignId
        invocation.intervalMillis (World.start disk invocation.supply) =
          (.ok result, after))
      (selected : result.selectedSequence = some (frontier + 1)) :
      History setting campaignId (frontier + 1) after.disk
  | retried {frontier : Nat} {disk : CampaignDir}
      (earlier : History setting campaignId frontier disk)
      (invocation : Invocation)
      (again : Ready setting campaignId
        (invocation.leaves setting campaignId disk) frontier) :
      History setting campaignId frontier
        (invocation.leaves setting campaignId disk)

section Histories

variable {disk dir : CampaignDir} {log : Bytes} {entries : Entries}
variable {done : List Nat}

theorem Honest.samples
    (honest : Honest setting campaignId disk frontier log entries done)
    (samples : Option Bytes) :
    Honest setting campaignId { disk with samples := samples } frontier log
      entries done := by
  obtain ⟨⟨⟨campaign, loads⟩, events, iterations, failures, reads, accepted,
    distinct, finished⟩, terminated, lines, files⟩ := honest
  exact ⟨⟨⟨campaign, (loadExisting_congr rfl).trans loads⟩, events,
    iterations, failures, reads, accepted, distinct, finished⟩, terminated,
    lines, files⟩

theorem Honest.reports
    (honest : Honest setting campaignId disk frontier log entries done)
    (bounded : frontier ≤ u64Max) :
    reconcileResumeStatus setting campaignId disk =
      .ok (statusAt campaignId frontier) :=
  reconcile_recorded bounded honest.recorded

theorem Honest.ready
    (honest : Honest setting campaignId disk frontier log entries done)
    (room : frontier + 1 ≤ u64Max) :
    Ready setting campaignId disk frontier := by
  rw [ready_iff_reports, honest.reports (by omega), statusAt, if_pos room]

/-- A log in which nothing is recorded has no lines. -/
theorem honest_opened (ready : Ready setting campaignId disk 0) :
    ∃ log entries done,
      Honest setting campaignId disk 0 log entries done := by
  obtain ⟨log, entries, done, content⟩ := ready_iff.mp ready
  have none : LineLog.lines log = [] := by
    cases lines : LineLog.lines log with
    | nil => rfl
    | cons line rest =>
        have member : line ∈ LineLog.lines log := by
          rw [lines]
          exact List.mem_cons_self
        obtain ⟨record, reads⟩ :=
          Option.isSome_iff_exists.mp (content.allReadable line member)
        have range := content.finished.numbers record
          (List.mem_filterMap.mpr ⟨line, member, reads⟩)
        omega
  have terminated : Terminated log := by
    by_contra open_
    have tail := (List.append_eq_nil_iff.mp none).2
    rw [if_neg (show ¬(LineLog.split log).2 = [] from open_)] at tail
    cases tail
  refine ⟨log, entries, done, content.recorded, terminated, ⟨[], ?_, rfl, rfl⟩,
    fun sequence low high => ?_⟩
  · rw [none]
    exact .nil
  · omega

/-- The phases of events that end nothing. -/
theorem quiet_phases {texts : List Bytes} (positive : 1 ≤ sequence)
    (bounded : sequence ≤ u64Max)
    (quiet : ∀ text ∈ texts, QuietEvent campaignId sequence text) :
    ∃ phases, List.Forall₂ (EventOf campaignId) texts phases ∧
      phases.count terminalSuccessPhase = 0 ∧
      phases.count terminalFailurePhase = 0 := by
  induction texts with
  | nil => exact ⟨[], .nil, rfl, rfl⟩
  | cons text rest ih =>
      obtain ⟨phases, related, success, failure⟩ :=
        ih (fun other member => quiet other (List.mem_cons_of_mem _ member))
      obtain ⟨phase, _, notSuccess, notFailure, isEvent⟩ :=
        quiet text List.mem_cons_self
      refine ⟨phase :: phases,
        .cons ⟨sequence, positive, bounded, isEvent⟩ related, ?_, ?_⟩
      · rw [List.count_cons_of_ne notSuccess, success]
      · rw [List.count_cons_of_ne notFailure, failure]

/-- An executed sequence keeps the evidence honest. -/
theorem Honest.completed {texts : List Bytes} {content text : Bytes}
    (honest : Honest setting campaignId disk frontier log entries done)
    (room : frontier + 1 ≤ u64Max)
    (evidenced : Evidenced campaignId (frontier + 1) texts content text) :
    ∃ log entries done, Honest setting campaignId
      (completed (frontier + 1) texts content text disk) (frontier + 1) log
      entries done := by
  have recorded := honest.recorded.completed evidenced honest.terminated room
  have lines := LineLog.lines_texts honest.terminated
    (evidenced.records room)
  have fresh := (honest.ready room).fresh
  have shown : Folder.iterations.get disk = entries := by
    rw [Folder.get, honest.recorded.iterations]
    rfl
  rw [shown] at fresh
  refine ⟨_, _, _, recorded, lines.1, ?_, ?_⟩
  · obtain ⟨earlier, related, success, failure⟩ := honest.events
    obtain ⟨phases, added, noSuccess, noFailure⟩ :=
      quiet_phases (Nat.succ_pos frontier) room evidenced.quiet
    have last : List.Forall₂ (EventOf campaignId) [text]
        [terminalSuccessPhase] :=
      .cons ⟨_, Nat.succ_pos frontier, room, evidenced.success⟩ .nil
    refine ⟨earlier ++ (phases ++ [terminalSuccessPhase]), ?_, ?_, ?_⟩
    · rw [lines.2]
      exact List.rel_append related (List.rel_append added last)
    · rw [List.count_append, List.count_append, success, noSuccess]
      rfl
    · rw [List.count_append, List.count_append, failure, noFailure]
      rfl
  · intro sequence low high
    by_cases last : sequence = frontier + 1
    · obtain ⟨execution, follows, isIteration⟩ := evidenced.singleton
      rw [last]
      exact ⟨content, execution, fileContent_last fresh content, follows,
        isIteration⟩
    · obtain ⟨old, execution, file, follows, isIteration⟩ :=
        honest.files sequence low (by omega)
      refine ⟨old, execution, ?_, follows, isIteration⟩
      rw [fileContent_append (Option.isSome_iff_exists.mpr ⟨old, file⟩)]
      exact file

/-- An attempt that left the campaign ready where it was keeps it honest. -/
theorem Honest.retried
    (honest : Honest setting campaignId disk frontier log entries done)
    (left : Left campaignId (frontier + 1) disk dir)
    (again : Ready setting campaignId dir frontier) :
    ∃ log entries done,
      Honest setting campaignId dir frontier log entries done := by
  obtain ⟨last, kept, numbers, content⟩ := ready_iff.mp again
  have ready := honest.ready content.room
  obtain ⟨_, same⟩ | moved := left.ready ready again
  · rw [content.events, honest.recorded.events] at same
    cases same
    obtain ⟨more, iterations⟩ := left.iterations
    have shown : kept = entries ++ more := by
      rw [Folder.get, Folder.get, content.iterations,
        honest.recorded.iterations] at iterations
      exact iterations
    refine ⟨_, kept, numbers, content.recorded, honest.terminated,
      honest.events, fun sequence low high => ?_⟩
    obtain ⟨old, execution, file, follows, isIteration⟩ :=
      honest.files sequence low high
    refine ⟨old, execution, ?_, follows, isIteration⟩
    rw [shown, fileContent_append (Option.isSome_iff_exists.mpr ⟨old, file⟩)]
    exact file
  · omega

/-- A history leaves honest evidence of its sequences. -/
theorem History.honest (history : History setting campaignId frontier disk) :
    frontier ≤ u64Max ∧ ∃ log entries done,
      Honest setting campaignId disk frontier log entries done := by
  induction history with
  | opened ready => exact ⟨Nat.zero_le _, honest_opened ready⟩
  | @executed frontier disk result after earlier invocation returned selected
      ih =>
      obtain ⟨bounded, log, entries, done, honest⟩ := ih
      let start := World.start disk invocation.supply
      by_cases room : frontier + 1 ≤ u64Max
      · have ready : Ready setting campaignId start.disk frontier :=
          honest.ready room
        obtain ⟨_, _, _, texts, content, text, evidenced, shown⟩ :=
          executeNext_returned ready returned
        obtain ⟨log, entries, done, next⟩ := honest.completed room evidenced
        have shownDisk : after.disk = _ := shown
        rw [shownDisk]
        exact ⟨room, log, entries, done, next.samples _⟩
      · have reports := honest.reports bounded
        rw [statusAt, if_neg room] at reports
        have refuses : executeNextSampledRecordedIteration setting campaignId
            invocation.intervalMillis start =
              (.ok (refused campaignId (exhausted campaignId)), start) :=
          executeNext_unready reports (fun same => by cases same)
        have result_ := congrArg Prod.fst (refuses.symm.trans returned)
        injection result_ with same
        rw [← same] at selected
        cases selected
  | @retried frontier disk earlier invocation again ih =>
      obtain ⟨bounded, log, entries, done, honest⟩ := ih
      have room := again.room
      obtain ⟨dir, left, shown⟩ :=
        (invocation.stepped disk).ran_of_ready (honest.ready room)
      rw [shown] at again ⊢
      obtain ⟨log, entries, done, next⟩ := honest.retried left again
      exact ⟨bounded, log, entries, done, next.samples _⟩

/-! ### What the summary makes of a history -/

/-- A snapshot that shows a frontier and nothing that went wrong. -/
structure Untroubled (snapshot : EvidenceSnapshot) (campaignId : String)
    (frontier : Nat) : Prop where
  violations : snapshot.semanticViolations = []
  lifecycle : snapshot.lifecycle =
    { terminalSuccess := frontier
      terminalFailure := 0 }
  failures : snapshot.failures.total = 0
  resume : frontier < u64Max → snapshot.resume = readyOf campaignId frontier

section Reasons

variable {snapshot : EvidenceSnapshot} {policy : SummaryAcceptancePolicy}
variable {database : DatabaseReconciliation} {observedAt : Nat}
variable {summary : CampaignSummary} {world after : World}

/-- Its evidence is no reason to reject it. -/
theorem Untroubled.reasons
    (untroubled : Untroubled snapshot campaignId frontier)
    (finalizes : finalizeSummary setting snapshot policy observedAt database
      world = (.ok summary, after)) :
    .evidenceSemanticMismatch ∉ summary.reasonCodes ∧
      .unexpectedTerminalFailureEvidence ∉ summary.reasonCodes ∧
      (frontier < u64Max →
        .durableResumeNotReady ∉ summary.reasonCodes) := by
  obtain ⟨path, elapsedNanos, minimumElapsedNanos, rfl⟩ :=
    finalizeSummary_returned finalizes
  obtain ⟨violations, terminal, ready⟩ :=
    @mem_reasonCodes snapshot policy database elapsedNanos minimumElapsedNanos
  simp only [summaryOf]
  rw [violations, terminal, ready, untroubled.lifecycle, untroubled.failures]
  refine ⟨not_not_intro untroubled.violations,
    not_or.mpr ⟨Nat.lt_irrefl 0, Nat.lt_irrefl 0⟩, fun room => ?_⟩
  rw [untroubled.resume room]
  exact not_not_intro rfl

end Reasons

/-- What the scanners of a summary make of a campaign. -/
structure ReadsBack (setting : Setting) (campaignId : String)
    (frontier : Nat) (disk : CampaignDir) : Prop where
  events : scanEvents setting (setting.eventsPath campaignId) campaignId
      disk.events =
    .ok { terminalSuccess := frontier, terminalFailure := 0 }
  failures : scanFailures setting (setting.failuresDir campaignId) campaignId
      disk.failures =
    .ok
      { total := 0
        harnessEnvironment := 0
        workloadChild := 0
        verification := 0 }
  iterations : ∃ scan,
    scanIterations setting (setting.iterationsDir campaignId) campaignId
        (disk.iterations.getD []) frontier = .ok scan ∧
      scan.violations = []
  resume : reconcileResumeStatus setting campaignId disk =
    .ok (if frontier < u64Max then readyOf campaignId frontier
      else exhausted campaignId)
  /-- Only the resource samples are left to fail a collection. -/
  collects : ∀ resources,
    scanSamples setting (setting.samplesPath campaignId) campaignId
      disk.samples = .ok resources →
    ∃ snapshot, collectEvidence setting campaignId disk = .ok snapshot ∧
      Untroubled snapshot campaignId frontier
  /-- However it is finalized, the evidence is no reason to reject it. -/
  finalizes : ∀ snapshot policy observedAt database world summary after,
    collectEvidence setting campaignId disk = .ok snapshot →
    finalizeSummary setting snapshot policy observedAt database world =
      (.ok summary, after) →
    .evidenceSemanticMismatch ∉ summary.reasonCodes ∧
      .unexpectedTerminalFailureEvidence ∉ summary.reasonCodes ∧
      (frontier < u64Max → .durableResumeNotReady ∉ summary.reasonCodes)

/-- What is collected behind a frontier. -/
def snapshotAt (campaign : CampaignRecord) (campaignId : String)
    (frontier : Nat) (resources : ResourceSummary) : EvidenceSnapshot :=
  let scan := plannedScans campaignId (List.range' 1 frontier) .none
  { campaign := campaign
    resume := statusAt campaignId frontier
    readers := scan.readers
    executions := scan.executions
    lifecycle := { terminalSuccess := frontier, terminalFailure := 0 }
    failures :=
      { total := 0
        harnessEnvironment := 0
        workloadChild := 0
        verification := 0 }
    resources := resources
    semanticViolations := scan.violations }

theorem snapshotAt_untroubled (campaign : CampaignRecord)
    (resources : ResourceSummary) :
    Untroubled (snapshotAt campaign campaignId frontier resources) campaignId
      frontier where
  violations := by
    rw [snapshotAt, plannedScans_counts]
    rfl
  lifecycle := rfl
  failures := rfl
  resume := fun room => if_pos (Nat.succ_le_of_lt room)

theorem Honest.collects
    (honest : Honest setting campaignId disk frontier log entries done)
    (bounded : frontier ≤ u64Max) {resources : ResourceSummary}
    (samples : scanSamples setting (setting.samplesPath campaignId) campaignId
      disk.samples = .ok resources) :
    ∃ campaign, collectEvidence setting campaignId disk =
      .ok (snapshotAt campaign campaignId frontier resources) := by
  obtain ⟨campaign, loads⟩ := honest.recorded.loads
  obtain ⟨valid, _, binary, _, _, _, expected⟩ := loadExisting_valid loads
  obtain ⟨iterations, _⟩ := honest.scanIterations valid bounded
    (setting.iterationsDir campaignId)
  have reached : (snapshotAt campaign campaignId frontier
      resources).resume.frontierSequence = frontier :=
    statusAt_frontier bounded
  have supported : campaign.schema = campaignSchema ∧
      campaign.schemaVersion = schemaVersion := by
    rw [expected]
    exact ⟨rfl, rfl⟩
  have agree : lifecycleViolations
      (snapshotAt campaign campaignId frontier resources).lifecycle
      (snapshotAt campaign campaignId frontier resources).failures
      frontier = [] := lifecycleViolations_eq_nil.mpr ⟨rfl, rfl⟩
  refine ⟨campaign, collectEvidence_eq_ok.mpr
    { loads := loads
      supported := supported
      resume := honest.reports bounded
      events := honest.scanEvents _
      failures := honest.scanFailures _
      iterations := ⟨(snapshotAt campaign campaignId frontier
        resources).semanticViolations, ?_, ?_⟩
      samples := samples }⟩
  · rw [reached]
    exact iterations
  · rw [reached, agree, List.append_nil]

/-- What the invocations of a history wrote is read back without a fault. -/
theorem history_readsBack
    (history : History setting campaignId frontier disk) :
    ReadsBack setting campaignId frontier disk := by
  obtain ⟨bounded, log, entries, done, honest⟩ := history.honest
  obtain ⟨campaign, loads⟩ := honest.recorded.loads
  have valid := (loadExisting_valid loads).1
  exact
    { events := honest.scanEvents _
      failures := honest.scanFailures _
      iterations := ⟨_, honest.scanIterations valid bounded _⟩
      resume := honest.reports bounded
      collects := by
        intro resources samples
        obtain ⟨campaign, collects⟩ := honest.collects bounded samples
        exact ⟨_, collects, snapshotAt_untroubled campaign resources⟩
      finalizes := by
        intro snapshot policy observedAt database world summary after
          collects finalizes
        have samples := (collectEvidence_eq_ok.mp collects).samples
        obtain ⟨campaign, again⟩ := honest.collects bounded samples
        rw [collects] at again
        injection again with same
        rw [same] at finalizes
        exact (snapshotAt_untroubled campaign _).reasons finalizes }

end Histories

/-! ### Faultless histories -/

/-- Where nothing fails, one sequence after the other is executed. -/
theorem exists_history (bounded : frontier ≤ u64Max) :
    ∃ disk, History exampleSetting "c" frontier disk := by
  induction frontier with
  | zero => exact ⟨freshDir, .opened freshDir_ready⟩
  | succ frontier ih =>
      obtain ⟨disk, history⟩ := ih (Nat.le_of_succ_le bounded)
      obtain ⟨_, log, entries, done, honest⟩ := history.honest
      have ready : Ready exampleSetting "c"
          (World.start disk (fun _ => faultlessAnswer)).disk frontier :=
        honest.ready bounded
      obtain ⟨result, after, returned, shown, _⟩ := executeNext_faultless
        ready (show minSampleIntervalMillis ≤ 10 ∧
          10 ≤ maxSampleIntervalMillis by decide) rfl
      exact ⟨after.disk, .executed history ⟨10, fun _ => faultlessAnswer⟩
        returned shown.2.1⟩

theorem history_readsBack_two : ∃ disk,
    History exampleSetting "c" 2 disk ∧
      ReadsBack exampleSetting "c" 2 disk := by
  obtain ⟨disk, history⟩ := exists_history (show 2 ≤ u64Max by decide)
  exact ⟨disk, history, history_readsBack history⟩

/-- With every number used up the campaign is not ready. -/
theorem history_exhausted : ∃ disk status,
    History exampleSetting "c" u64Max disk ∧
      reconcileResumeStatus exampleSetting "c" disk = .ok status ∧
      status.state ≠ .ready ∧
      status.reason = some "sequence frontier overflowed u64" := by
  obtain ⟨disk, history⟩ := exists_history (Nat.le_refl u64Max)
  obtain ⟨bounded, log, entries, done, honest⟩ := history.honest
  refine ⟨disk, exhausted "c", history, ?_, ?_, rfl⟩
  · rw [honest.reports bounded, statusAt,
      if_neg (Nat.not_succ_le_self u64Max)]
  · intro same
    cases same

end Summary

end Endurance
