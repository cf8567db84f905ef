/-
An accepted summary tells the truth: the schedule was executed without a gap up
to the reported frontier, every iteration went as planned, and the counts are
those of the schedule.
-/

import OxideWorkloads.Endurance.SummaryReadback

namespace Endurance

namespace Summary

open Foundation
open Foundation.CrashRun
open Foundation.Checks
open Foundation.LineLog (Bytes newline Terminated)
open Foundation.JsonGrammar (objectFraming nestingLimit)

variable {setting : Setting} {campaignId : String} {disk : CampaignDir}
variable {snapshot : EvidenceSnapshot} {policy : SummaryAcceptancePolicy}
variable {database : DatabaseReconciliation} {summary : CampaignSummary}
variable {observedAt : Nat}

/-! ### The reasons -/

/-- What the evidence must be like for a summary without a reason. -/
structure Acceptable (snapshot : EvidenceSnapshot) : Prop where
  violations : snapshot.semanticViolations = []
  terminalFailure : snapshot.lifecycle.terminalFailure = 0
  failures : snapshot.failures.total = 0
  ready : snapshot.resume.state = .ready

theorem reasonCodes_acceptable {elapsedNanos minimumElapsedNanos : Nat}
    (none : reasonCodes snapshot policy elapsedNanos minimumElapsedNanos
      database = []) : Acceptable snapshot := by
  obtain ⟨violations, terminal, ready⟩ :=
    @mem_reasonCodes snapshot policy database elapsedNanos minimumElapsedNanos
  rw [none] at violations terminal ready
  have untroubled := fun failed => List.not_mem_nil (terminal.mpr failed)
  refine ⟨?_, ?_, ?_, ?_⟩
  · by_contra other
    exact List.not_mem_nil (violations.mpr other)
  · exact Nat.eq_zero_of_not_pos (fun failed => untroubled (.inl failed))
  · exact Nat.eq_zero_of_not_pos (fun failed => untroubled (.inr failed))
  · by_contra other
    exact List.not_mem_nil (ready.mpr other)

/-! ### The evidence -/

/-- The evidence of a campaign that was executed as planned up to a
frontier. -/
structure ExecutedUpTo (setting : Setting) (campaignId : String)
    (disk : CampaignDir) (frontier : Nat) : Prop where
  ready : Ready setting campaignId disk frontier
  iterations : ∀ sequence, 1 ≤ sequence → sequence ≤ frontier →
    ∃ value, FileAsPlanned setting campaignId (disk.iterations.getD [])
      sequence value
  events : ∃ phases, List.Forall₂ (EventLine setting campaignId)
      (LineLog.lines (disk.events.getD [])) phases ∧
    phases.count terminalSuccessPhase = frontier ∧
    phases.count terminalFailurePhase = 0
  failures : disk.failures = some []

/-- The counts of the schedule up to a frontier. -/
structure CountsOf (readers : ReaderCounts) (executions : ExecutionCounts)
    (frontier : Nat) : Prop where
  cursor : readers.cursor = (frontier + 1) / 2
  paging : readers.paging = frontier / 2
  clean : executions.clean = (List.range' 1 frontier).countP
    (fun sequence => sequence % 50 ≠ 24 ∧ sequence % 50 ≠ 49)
  beforeCommitCrash : executions.beforeCommitCrash =
    (List.range' 1 frontier).countP (fun sequence => sequence % 50 = 24)
  afterCommitCrash : executions.afterCommitCrash =
    (List.range' 1 frontier).countP (fun sequence => sequence % 50 = 49)

theorem countsOf_plannedScans (frontier : Nat) :
    CountsOf
      (plannedScans campaignId (List.range' 1 frontier) .none).readers
      (plannedScans campaignId (List.range' 1 frontier) .none).executions
      frontier := by
  have readers := readers_upTo frontier
  rw [plannedScans_counts]
  simp only [IterationScan.none, Nat.zero_add]
  exact ⟨readers.1, readers.2, rfl, rfl, rfl⟩

theorem Collected.ready
    (collected : Collected setting campaignId disk snapshot)
    (state : snapshot.resume.state = .ready) :
    Ready setting campaignId disk snapshot.resume.frontierSequence ∧
      snapshot.resume =
        readyOf campaignId snapshot.resume.frontierSequence := by
  obtain ⟨frontier, ready⟩ := (state_ready_iff collected.resume).mp state
  have same : snapshot.resume = readyOf campaignId frontier := by
    have reports := collected.resume
    rw [ready_iff_reports.mp ready] at reports
    injection reports with same
    exact same.symm
  rw [same]
  exact ⟨ready, rfl⟩

/-- Evidence that is acceptable is that of an executed schedule. -/
theorem Collected.executed
    (collected : Collected setting campaignId disk snapshot)
    (acceptable : Acceptable snapshot) :
    ExecutedUpTo setting campaignId disk snapshot.resume.frontierSequence ∧
      CountsOf snapshot.readers snapshot.executions
        snapshot.resume.frontierSequence ∧
      snapshot.lifecycle =
        { terminalSuccess := snapshot.resume.frontierSequence
          terminalFailure := 0 } := by
  obtain ⟨ready, _⟩ := collected.ready acceptable.ready
  obtain ⟨violations, iterations, joined⟩ := collected.iterations
  rw [acceptable.violations] at joined
  obtain ⟨quiet, agree⟩ := List.append_eq_nil_iff.mp joined.symm
  obtain ⟨successes, _⟩ := lifecycleViolations_eq_nil.mp agree
  have noFailure := acceptable.terminalFailure
  obtain ⟨_, scan, files⟩ := scanSequences_silent.mp ⟨iterations, quiet⟩
  obtain ⟨bytes, phases, log, lines, counted⟩ :=
    scanEvents_eq_ok.mp collected.events
  obtain ⟨_, _, _, content⟩ := ready_iff.mp ready
  have counts := @countsOf_plannedScans campaignId
    snapshot.resume.frontierSequence
  rw [← scan] at counts
  rw [counted] at successes noFailure
  refine ⟨⟨ready, fun sequence low high => ?_, ⟨phases, ?_, successes,
    noFailure⟩, content.failures⟩, counts, ?_⟩
  · exact (files sequence (mem_upTo.mpr ⟨low, high⟩)).2.2.2
  · rw [log]
    exact lines
  · rw [counted, ← successes, ← noFailure]

/-! ### A campaign of one sequence -/

/-- A sample of an idle host. -/
def idleSample : ResourceSampleRecord :=
  { timestampUnixNanosUtc := 0
    campaignId := "c"
    sequence := 1
    sampleKind := "interval"
    sampleIntervalMillis := 10
    process := none
    postgres :=
      { totalConnections := 0, activeConnections := 0, databaseSizeBytes := 0 }
    oxideBatch :=
      { jobInstances := 0
        jobExecutions := 0
        stepExecutions := 0
        jobInstanceTableBytes := 0
        jobExecutionTableBytes := 0
        stepExecutionTableBytes := 0 }
    filesystem := { totalBytes := 0, usedBytes := 0, availableBytes := 0 } }

theorem readLine_compact {document : Json}
    (path : String) (lineNumber : Nat)
    (isPlain : document.plain nestingLimit = true)
    (object : JsonGrammar.ObjectText (Json.compact document)) :
    readLine setting path lineNumber (Json.compact document) =
      .ok document := by
  obtain ⟨text, decoded, _, notBlank⟩ :=
    JsonGrammar.decodeUtf8_object isPlain object
  simp only [readLine, bind_eq_ok, require_eq_ok, ensure_eq_ok,
    context_eq_ok]
  exact ⟨text, decoded, (), notBlank,
    setting.serde.value.read_compact isPlain⟩

theorem lines_single {text : Bytes} (isRecord : objectFraming.record text) :
    LineLog.lines (text ++ [newline]) = [text] :=
  LineLog.lines_clean (show Terminated [] from rfl) isRecord

theorem idleSample_scans (path : String) : ∃ resources,
    scanSamples exampleSetting path "c"
        (some (Json.compact idleSample.toJson ++ [newline])) =
      .ok resources ∧ resources.sampleCount = 1 := by
  have isPlain : idleSample.toJson.plain nestingLimit = true := by
    decide +kernel
  have object : JsonGrammar.ObjectText (Json.compact idleSample.toJson) :=
    JsonGrammar.objectText_compact
      (show "schema".toList.head? = some 's' from rfl) (by decide) isPlain
  rw [scanSamples, lines_single ⟨object, JsonGrammar.compact_line isPlain⟩]
  simp only [scanSampleLines, readLine_compact path 1 isPlain object]
  exact ⟨_, rfl, rfl⟩

/-- Where nothing fails, a summary is returned. -/
theorem finalizeSummary_faultless {dir : CampaignDir} {world : World}
    (database : DatabaseReconciliation)
    (faultless : At True Unwatched dir world)
    (fresh : hasEntry "summary.json" dir.top = false)
    (solid : ∀ entry ∈ dir.top, ¬TemporaryNamed entry)
    (minimum : policy.minimumElapsed ≤ u64Max)
    (started : snapshot.campaign.createdAtUnixNanosUtc ≤ observedAt) :
    ∃ path after, finalizeSummary setting snapshot policy observedAt database
      world =
        (.ok (summaryOf path snapshot policy observedAt
          (observedAt - snapshot.campaign.createdAtUnixNanosUtc)
          policy.minimumElapsed database), after) := by
  have duration : durationNanos policy.minimumElapsed =
      .ok policy.minimumElapsed := by
    simp only [durationNanos, bind_eq_ok, ensure_eq_ok, pure_eq_ok]
    exact ⟨(), minimum, trivial⟩
  have clock : ∀ message : String, ensure
      (snapshot.campaign.createdAtUnixNanosUtc ≤ observedAt) message =
        .ok () := fun _ => ensure_eq_ok.mpr started
  have writes := fun parent value => triple_atomicWriteJson parent value
    (show Folder.top.Created dir from rfl) fresh solid
    (fun _ _ => True.intro) world faultless
  have ends : wp (finalizeSummary setting snapshot policy observedAt database)
      { ok := fun summary _ => ∃ path, summary =
          summaryOf path snapshot policy observedAt
            (observedAt - snapshot.campaign.createdAtUnixNanosUtc)
            policy.minimumElapsed database
        error := fun _ _ => False
        killed := fun _ => False } world := by
    unfold finalizeSummary
    simp only [wp_bind, wp_ofExcept, duration, clock, wp_pure]
    exact wp_mono (writes _ _) (fun _ _ _ => ⟨_, rfl⟩)
      (fun _ _ stopped => stopped.1 trivial)
      (fun _ stopped => stopped.1 trivial)
  obtain ⟨summary, after, returned, path, same⟩ := returns_of_wp ends
  rw [same] at returned
  exact ⟨path, after, returned⟩

/-- Where nothing fails, a campaign executes any number of sequences. -/
theorem exists_honest {frontier : Nat} (bounded : frontier ≤ u64Max) :
    ∃ disk log entries done,
      Honest exampleSetting "c" disk frontier log entries done ∧
        disk.top = freshDir.top := by
  induction frontier with
  | zero =>
      obtain ⟨log, entries, done, honest⟩ := honest_opened freshDir_ready
      exact ⟨freshDir, log, entries, done, honest, rfl⟩
  | succ frontier ih =>
      obtain ⟨disk, _, _, _, honest, top⟩ := ih (Nat.le_of_succ_le bounded)
      have ready : Ready exampleSetting "c"
          (World.start disk (fun _ => faultlessAnswer)).disk frontier :=
        honest.ready bounded
      obtain ⟨_, _, _, returned, _⟩ := executeNext_faultless ready
        (show minSampleIntervalMillis ≤ 10 ∧ 10 ≤ maxSampleIntervalMillis
          by decide) rfl
      obtain ⟨_, _, _, texts, content, text, evidenced, _⟩ := returned
      obtain ⟨log, entries, done, next⟩ := honest.completed bounded evidenced
      exact ⟨_, log, entries, done, next, top⟩

theorem freshDir_solid : ∀ entry ∈ freshDir.top, ¬TemporaryNamed entry := by
  intro entry member
  rw [List.mem_singleton.mp member]
  intro temporary
  obtain ⟨fileName, processId, timestamp, same⟩ := temporary
  injection same with same
  have stripped := Text.stripSuffix_append "campaign" ".json"
  rw [show "campaign" ++ ".json" = "campaign.json" from rfl, same,
    temporaryName_no_suffix] at stripped
  cases stripped

/-- One crash of each kind. -/
def crashPolicy : SummaryAcceptancePolicy :=
  { minimumElapsed := 0
    minimumCompletedIterations := 49
    minimumBeforeCommitCrashes := 1
    minimumAfterCommitCrashes := 1 }

def settledDatabase : DatabaseReconciliation :=
  { logicalIdentitiesChecked := 1
    executionRowsObserved := 1
    missingLogicalIdentities := []
    recoveryRequiredExecutions := [] }

theorem plannedScans_crashes :
    plannedScans "c" (List.range' 1 49) .none =
      { readers := { cursor := 25, paging := 24 }
        executions :=
          { clean := 47, beforeCommitCrash := 1, afterCommitCrash := 1 }
        violations := [] } := by
  rw [plannedScans_counts]
  decide

theorem snapshotAt_crashes_reasons (campaign : CampaignRecord)
    {resources : ResourceSummary} (observed : resources.sampleCount = 1)
    (elapsedNanos : Nat) :
    reasonCodes (snapshotAt campaign "c" 49 resources) crashPolicy
      elapsedNanos 0 settledDatabase = [] := by
  have room : 49 + 1 ≤ u64Max := by decide
  rw [snapshotAt, statusAt, if_pos room, plannedScans_crashes]
  simp [reasonCodes, pushWhen, crashPolicy, settledDatabase, readyOf, observed]

/-! ### Acceptance -/

/-- An accepted summary is sound, and its counts are exact. -/
theorem acceptedSummary_exact {world after : World}
    (collects : collectEvidence setting campaignId disk = .ok snapshot)
    (finalizes : finalizeSummary setting snapshot policy observedAt database
      world = (.ok summary, after))
    (accepted : summary.verdict = .accepted) :
    ExecutedUpTo setting campaignId disk summary.finalFrontierSequence ∧
      CountsOf summary.readers summary.executions
        summary.finalFrontierSequence ∧
      summary.lifecycle =
        { terminalSuccess := summary.finalFrontierSequence
          terminalFailure := 0 } ∧
      summary.failures.total = 0 ∧
      summary.finalResumeStatus =
        readyOf campaignId summary.finalFrontierSequence := by
  obtain ⟨path, elapsedNanos, minimumElapsedNanos, rfl⟩ :=
    finalizeSummary_returned finalizes
  have none : reasonCodes snapshot policy elapsedNanos minimumElapsedNanos
      database = [] := by
    by_contra reasons
    rw [summaryOf] at accepted
    simp only [if_neg reasons] at accepted
    cases accepted
  have acceptable := reasonCodes_acceptable none
  have collected := collectEvidence_eq_ok.mp collects
  obtain ⟨executed, counts, lifecycle⟩ := collected.executed acceptable
  exact ⟨executed, counts, lifecycle, acceptable.failures,
    (collected.ready acceptable.ready).2⟩

/-- Forty-nine sequences, one of which crashes before and one after the
commit. -/
theorem acceptedSummary_exact_crashes :
    ∃ disk snapshot observedAt summary after,
      collectEvidence exampleSetting "c" disk = .ok snapshot ∧
      finalizeSummary exampleSetting snapshot crashPolicy observedAt
          settledDatabase (World.start disk (fun _ => faultlessAnswer)) =
        (.ok summary, after) ∧
      summary.verdict = .accepted ∧ summary.finalFrontierSequence = 49 ∧
      summary.executions =
        { clean := 47, beforeCommitCrash := 1, afterCommitCrash := 1 } ∧
      ExecutedUpTo exampleSetting "c" disk 49 ∧
      CountsOf summary.readers summary.executions 49 := by
  obtain ⟨dir, log, entries, done, honest, top⟩ :=
    exists_honest (show 49 ≤ u64Max by decide)
  let disk : CampaignDir :=
    { dir with samples := some (Json.compact idleSample.toJson ++ [newline]) }
  obtain ⟨resources, samples, observed⟩ :=
    idleSample_scans (exampleSetting.samplesPath "c")
  obtain ⟨campaign, collects⟩ :=
    (honest.samples disk.samples).collects (by decide) samples
  have fresh : hasEntry "summary.json" disk.top = false := by
    rw [show disk.top = freshDir.top from top]
    decide
  have solid : ∀ entry ∈ disk.top, ¬TemporaryNamed entry := by
    rw [show disk.top = freshDir.top from top]
    exact freshDir_solid
  obtain ⟨path, after, finalizes⟩ := @finalizeSummary_faultless exampleSetting
    (snapshotAt campaign "c" 49 resources) crashPolicy
    campaign.createdAtUnixNanosUtc disk
    (World.start disk (fun _ => faultlessAnswer)) settledDatabase
    ⟨rfl, trivial, fun _ => rfl⟩ fresh solid (Nat.zero_le _) (Nat.le_refl _)
  have accepted : (summaryOf path (snapshotAt campaign "c" 49 resources)
      crashPolicy campaign.createdAtUnixNanosUtc
      (campaign.createdAtUnixNanosUtc - campaign.createdAtUnixNanosUtc) 0
      settledDatabase).verdict = .accepted :=
    if_pos (snapshotAt_crashes_reasons campaign observed _)
  have crashes : (snapshotAt campaign "c" 49 resources).executions =
      { clean := 47, beforeCommitCrash := 1, afterCommitCrash := 1 } := by
    rw [snapshotAt, plannedScans_crashes]
  obtain ⟨executed, counts, _⟩ :=
    acceptedSummary_exact collects finalizes accepted
  exact ⟨disk, _, _, _, after, collects, finalizes, accepted, rfl, crashes,
    executed, counts⟩

end Summary

end Endurance
