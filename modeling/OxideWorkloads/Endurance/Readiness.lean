/-
When a campaign is ready: exactly which content of its directory makes the
reconciliation report a frontier, and a directory for each frontier.
-/

import OxideWorkloads.Endurance.Readback
import Mathlib.Data.List.Forall2
import Mathlib.Data.List.Nodup

namespace Endurance

open Foundation
open Foundation.LineLog (Bytes newline AllReadable readable)
open Foundation.Checks
open Foundation.JsonGrammar (objectFraming recursiveReader)

variable {setting : Setting} {campaignId : String}

/-! ### Finished sequences -/

/-- The records of a prefix of finished sequences, and nothing else. -/
structure Finished (records : List EventRecord) (done failed : List Nat)
    (last : Nat) : Prop where
  numbers : ∀ record ∈ records,
    1 ≤ record.sequence ∧ record.sequence ≤ last
  singletons : ∀ sequence, sequence ∈ done ↔ 1 ≤ sequence ∧ sequence ≤ last
  failures : failed = []
  success : ∀ sequence, 1 ≤ sequence → sequence ≤ last →
    records.countP (fun record => record.sequence = sequence ∧
      record.phase = terminalSuccessPhase) = 1
  failure : ∀ sequence, 1 ≤ sequence → sequence ≤ last →
    records.countP (fun record => record.sequence = sequence ∧
      record.phase = terminalFailurePhase) = 0

theorem Tallies.complete_iff {evidence : Evidence}
    {records : List EventRecord} {done failed : List Nat}
    (tallies : Tallies evidence records done failed) (sequence : Nat) :
    EvidenceAt evidence sequence SequenceEvidence.Complete ↔
      sequence ∈ done ∧ sequence ∉ failed ∧
      records.countP (fun record => record.sequence = sequence ∧
        record.phase = terminalSuccessPhase) = 1 ∧
      records.countP (fun record => record.sequence = sequence ∧
        record.phase = terminalFailurePhase) = 0 := by
  simp only [EvidenceAt, tallies sequence, tally]
  constructor
  · rintro ⟨current, found, complete⟩
    split at found
    · cases found
      have single := complete.2.1
      have files := complete.2.2.2
      simp only [decide_eq_true_eq, List.count_eq_zero] at single files
      exact ⟨single, files, complete.1, complete.2.2.1⟩
    · cases found
  · rintro ⟨inDone, notFailed, success, failure⟩
    rw [if_pos (Or.inr (Or.inl inDone))]
    exact ⟨_, rfl, success, by simpa using inDone, failure,
      List.count_eq_zero.mpr notFailed⟩

/-- A complete prefix and nothing behind it, in terms of the records. -/
theorem Tallies.finished_iff {evidence : Evidence}
    {records : List EventRecord} {done failed : List Nat}
    (tallies : Tallies evidence records done failed) (last : Nat) :
    PresentExactly evidence last ∧ CompleteUpTo evidence last ↔
      Finished records done failed last := by
  have present : ∀ sequence, evidence.Present sequence ↔
      (∃ record ∈ records, record.sequence = sequence) ∨
        sequence ∈ done ∨ sequence ∈ failed := by
    intro sequence
    rw [OrderedMap.Present, tallies sequence]
    exact tally_present
  constructor
  · rintro ⟨exactly, complete⟩
    have all := fun sequence low high =>
      (tallies.complete_iff sequence).mp (complete sequence low high)
    refine ⟨fun record member => ?_, fun sequence => ⟨fun member => ?_,
      fun range => (all sequence range.1 range.2).1⟩, ?_,
      fun sequence low high => (all sequence low high).2.2.1,
      fun sequence low high => (all sequence low high).2.2.2⟩
    · exact (exactly _).mp ((present _).mpr (Or.inl ⟨record, member, rfl⟩))
    · exact (exactly _).mp ((present _).mpr (Or.inr (Or.inl member)))
    · rw [List.eq_nil_iff_forall_not_mem]
      intro sequence member
      have range := (exactly _).mp
        ((present _).mpr (Or.inr (Or.inr member)))
      exact (all sequence range.1 range.2).2.1 member
  · intro finished
    refine ⟨fun sequence => (present sequence).trans ⟨?_, fun range =>
      Or.inr (Or.inl ((finished.singletons sequence).mpr range))⟩,
      fun sequence low high => (tallies.complete_iff sequence).mpr
        ⟨(finished.singletons sequence).mpr ⟨low, high⟩, ?_,
          finished.success sequence low high,
          finished.failure sequence low high⟩⟩
    · rintro (⟨record, member, rfl⟩ | inDone | inFailed)
      · exact finished.numbers record member
      · exact (finished.singletons sequence).mp inDone
      · rw [finished.failures] at inFailed
        cases inFailed
    · rw [finished.failures]
      exact List.not_mem_nil

/-- Accepted records are scanned. -/
theorem scanEvidence_accepted {log : Bytes} {entries : Entries}
    {done : List Nat}
    (allReadable : AllReadable (readEvent setting campaignId) log)
    (accepted : List.Forall₂ (AcceptedIteration setting campaignId) entries
      done) (distinct : done.Nodup) :
    ∃ evidence, scanEvidence setting campaignId log entries [] =
        .ok evidence ∧
      Tallies evidence (readable (readEvent setting campaignId) log) done
        [] := by
  have counted := tallies_foldl (readable (readEvent setting campaignId) log)
    tallies_empty
  obtain ⟨evidence, scans, tallies⟩ := scanIterations_of_accepted counted
    accepted (by simpa using distinct)
  refine ⟨evidence, ?_, by simpa using tallies⟩
  simp only [scanEvidence, bind_eq_ok]
  exact ⟨_, scanEvents_eq_ok.mpr ⟨allReadable, rfl⟩, evidence, scans, rfl⟩

/-! ### A directory for every frontier -/

/-- A setting to evaluate the development in. -/
def exampleSetting : Setting :=
  { serde :=
      { value := recursiveReader
        record := recursiveReader }
    evidenceRoot := "evidence"
    binary := .ok
      { path := "target/release/postgres-postgres"
        sizeBytes := 1
        sha256 := "00" }
    databaseUrl := "postgres://localhost/bench" }

/-- A child process that ended well. -/
def plainChild : ChildProcessResult :=
  { pid := 2
    success := true
    code := some 0
    status := "exit status: 0" }

/-- A clean execution of a sequence. -/
def plainExecution (plan : IterationPlan) : RecordedExecutionResult :=
  .clean
    { campaignId := plan.campaignId
      sequence := plan.sequence
      reader := plan.reader
      importName := plan.importName
      chunkSize := canonicalChunkSize
      fetchSize := none
      pageSize := none
      run := plainChild
      verification := plainChild
      cleanupDeletedRows := 0 }

/-- The event that ends a sequence well. -/
def successText (campaignId : String) (sequence : Nat) : Bytes :=
  Json.compact (eventJson 0 campaignId sequence terminalSuccessPhase .null)

/-- The singleton of a sequence. -/
def singletonEntry (campaignId : String) (sequence : Nat) : Entry :=
  (.utf8 (iterationFileName sequence),
    some (Json.pretty (iterationJson 0 campaignId sequence
      (plainExecution (planOf campaignId sequence))) ++ [newline]))

/-- The event log of the sequences up to `last`. -/
def completeLog (campaignId : String) (last : Nat) : Bytes :=
  ((List.range' 1 last).map (successText campaignId)).flatMap
    (fun text => text ++ [newline])

def completeEntries (campaignId : String) (last : Nat) : Entries :=
  (List.range' 1 last).map (singletonEntry campaignId)

theorem mem_upTo {last sequence : Nat} :
    sequence ∈ List.range' 1 last ↔ 1 ≤ sequence ∧ sequence ≤ last := by
  rw [List.mem_range'_1]
  omega

theorem successText_isEvent (sequence : Nat) :
    IsEvent campaignId sequence terminalSuccessPhase
      (successText campaignId sequence) :=
  ⟨0, .null, Nat.zero_le _, rfl, rfl⟩

theorem singletonEntry_accepted {sequence : Nat} (positive : 1 ≤ sequence)
    (bounded : sequence ≤ u64Max) :
    AcceptedIteration setting campaignId (singletonEntry campaignId sequence)
      sequence :=
  have chunk : canonicalChunkSize ≤ u64Max := by decide
  have fits : (plainExecution (planOf campaignId sequence)).Bounded :=
    ⟨bounded, chunk, by simp, by simp⟩
  IsIteration.accepted ⟨0, Nat.zero_le _, rfl⟩ rfl positive fits

/-- The records of the sequences up to `last` are finished sequences. -/
theorem finished_upTo (last : Nat) :
    Finished ((List.range' 1 last).map (fun sequence =>
      eventOf campaignId sequence terminalSuccessPhase))
      (List.range' 1 last) [] last where
  numbers := by
    intro record member
    obtain ⟨sequence, inRange, rfl⟩ := List.mem_map.mp member
    exact mem_upTo.mp inRange
  singletons := fun sequence => mem_upTo
  failures := rfl
  success := by
    intro sequence low high
    have once := List.count_eq_one_of_mem List.nodup_range'
      (mem_upTo.mpr ⟨low, high⟩)
    rw [List.countP_map]
    refine (List.countP_congr (fun other _ => ?_)).trans once
    simp [eventOf]
  failure := by
    intro sequence low high
    rw [List.countP_map, List.countP_eq_zero]
    simp [eventOf, terminalSuccessPhase, terminalFailurePhase]

theorem completeLog_lines (campaignId : String) {last : Nat} (bounded : last ≤ u64Max) :
    LineLog.Terminated (completeLog campaignId last) ∧
      LineLog.lines (completeLog campaignId last) =
        (List.range' 1 last).map (successText campaignId) := by
  have records : ∀ text ∈ (List.range' 1 last).map (successText campaignId),
      objectFraming.record text := by
    intro text member
    obtain ⟨sequence, inRange, rfl⟩ := List.mem_map.mp member
    exact (successText_isEvent sequence).record
      ((mem_upTo.mp inRange).2.trans bounded)
  exact LineLog.lines_texts (show LineLog.Terminated [] from rfl) records

theorem completeLog_reads (setting : Setting) (campaignId : String)
    {last : Nat} (bounded : last ≤ u64Max) :
    AllReadable (readEvent setting campaignId) (completeLog campaignId last) ∧
      readable (readEvent setting campaignId) (completeLog campaignId last) =
        (List.range' 1 last).map (fun sequence =>
          eventOf campaignId sequence terminalSuccessPhase) := by
  have reads : ∀ sequence ∈ List.range' 1 last,
      readEvent setting campaignId (successText campaignId sequence) =
        some (eventOf campaignId sequence terminalSuccessPhase) := by
    intro sequence member
    have range := mem_upTo.mp member
    exact (successText_isEvent sequence).read (by omega)
      (range.2.trans bounded) (by decide)
  have lines := (completeLog_lines campaignId bounded).2
  constructor
  · intro line member
    rw [lines] at member
    obtain ⟨sequence, inRange, rfl⟩ := List.mem_map.mp member
    rw [reads sequence inRange]
    rfl
  · rw [readable, lines, List.filterMap_map]
    exact List.filterMap_eq_map_iff_forall_eq_some.mpr reads

theorem completeEntries_accepted {last : Nat} (bounded : last ≤ u64Max) :
    List.Forall₂ (AcceptedIteration setting campaignId)
      (completeEntries campaignId last) (List.range' 1 last) := by
  rw [completeEntries, List.forall₂_map_left_iff, List.forall₂_same]
  intro sequence member
  have range := mem_upTo.mp member
  exact singletonEntry_accepted range.1 (range.2.trans bounded)

/-- Every prefix of the sequences can be complete, with nothing behind it. -/
theorem complete_scans (setting : Setting) (campaignId : String)
    {last : Nat} (bounded : last ≤ u64Max) :
    ∃ evidence, scanEvidence setting campaignId (completeLog campaignId last)
        (completeEntries campaignId last) [] = .ok evidence ∧
      PresentExactly evidence last ∧ CompleteUpTo evidence last := by
  have reads := completeLog_reads setting campaignId bounded
  obtain ⟨evidence, scans, tallies⟩ := scanEvidence_accepted reads.1
    (completeEntries_accepted bounded) List.nodup_range'
  refine ⟨evidence, scans, (tallies.finished_iff last).mpr ?_⟩
  rw [reads.2]
  exact finished_upTo last

/-! ### The classification -/

/-- Whatever the scans accept is classified, and the reported verdict is the
one that holds. -/
theorem resumeClassification_exact {log : Bytes}
    {iterations failures : Entries} {evidence : Evidence}
    (valid : ValidCampaignId campaignId)
    (scans : scanEvidence setting campaignId log iterations failures =
      .ok evidence) :
    (∃ records done failed, Scanned setting campaignId log iterations failures
      evidence records done failed) ∧
    ∃ status, reconcileSequences campaignId evidence = .ok status ∧
      ∀ verdict, Verdict.Reported status verdict ↔
        Verdict.Holds evidence verdict := by
  obtain ⟨records, done, failed, scanned⟩ := scanEvidence_scanned scans
  obtain ⟨status, verdict, decides, reported, holds⟩ :=
    reconcileSequences_decided valid scanned.numbered
  refine ⟨⟨records, done, failed, scanned⟩, status, decides,
    fun other => ⟨fun otherReported => ?_, fun otherHolds => ?_⟩⟩
  · rw [otherReported.unique reported]
    exact holds
  · rw [otherHolds.unique holds]
    exact reported

/-- Even with every number used up the campaign is classified, but there is no
next sequence. -/
theorem exhausted_inconsistent : ∃ evidence status,
    scanEvidence exampleSetting "c" (completeLog "c" u64Max)
        (completeEntries "c" u64Max) [] = .ok evidence ∧
      PresentExactly evidence u64Max ∧ CompleteUpTo evidence u64Max ∧
      reconcileSequences "c" evidence = .ok status ∧
      status.state = .blockedInconsistentEvidence := by
  obtain ⟨evidence, scans, exactly, complete⟩ :=
    complete_scans exampleSetting "c" (Nat.le_refl u64Max)
  obtain ⟨_, _, _, scanned⟩ := scanEvidence_scanned scans
  obtain ⟨status, verdict, decides, reported, holds⟩ :=
    reconcileSequences_decided (show ValidCampaignId "c" by decide)
      scanned.numbered
  refine ⟨evidence, status, scans, exactly, complete, decides, ?_⟩
  have beyond : ∀ last, PresentExactly evidence last → last = u64Max := by
    intro last other
    have room : 1 ≤ u64Max := by decide
    have top := (other u64Max).mp ((exactly u64Max).mpr ⟨room, le_rfl⟩)
    have below := (exactly last).mp ((other last).mpr ⟨by omega, le_rfl⟩)
    omega
  cases verdict with
  | ready frontier =>
      have same := beyond frontier holds.1
      have room := holds.2.2
      omega
  | failure frontier =>
      have same := beyond _ holds.1
      obtain ⟨current, found, failed⟩ := holds.2.2
      obtain ⟨other, also, isComplete⟩ :=
        complete (frontier + 1) (by omega) (by omega)
      rw [found] at also
      cases also
      exact absurd failed isComplete.not_failed
  | incomplete frontier =>
      have same := beyond _ holds.1
      obtain ⟨current, found, nonterminal⟩ := holds.2.2
      obtain ⟨other, also, isComplete⟩ :=
        complete (frontier + 1) (by omega) (by omega)
      rw [found] at also
      cases also
      exact absurd nonterminal isComplete.not_nonterminal
  | inconsistent => exact reported

/-- Two complete iterations: the campaign is ready for the third. -/
theorem resumeClassification_two : ∃ evidence status,
    scanEvidence exampleSetting "c" (completeLog "c" 2)
        (completeEntries "c" 2) [] = .ok evidence ∧
      reconcileSequences "c" evidence = .ok status ∧
      Verdict.Reported status (.ready 2) := by
  obtain ⟨evidence, scans, present, complete⟩ :=
    complete_scans exampleSetting "c" (show 2 ≤ u64Max by decide)
  obtain ⟨_, status, decides, classified⟩ :=
    resumeClassification_exact (show ValidCampaignId "c" by decide) scans
  have third : 2 + 1 ≤ u64Max := by decide
  exact ⟨evidence, status, scans, decides,
    (classified (.ready 2)).mpr ⟨present, complete, third⟩⟩

/-! ### The report of a ready campaign -/

/-- The campaign is ready behind a number of finished sequences. -/
def Ready (setting : Setting) (campaignId : String) (disk : CampaignDir)
    (frontier : Nat) : Prop :=
  ∃ status, reconcileResumeStatus setting campaignId disk = .ok status ∧
    Verdict.Reported status (.ready frontier)

/-- A status names its campaign, and a ready status the next sequence with its
plan. -/
structure ResumeStatus.Coherent (campaignId : String)
    (status : ResumeStatus) : Prop where
  campaign : status.campaignId = campaignId
  ready : status.state = .ready → ∃ frontier,
    readyStatus campaignId frontier (frontier + 1) = .ok status

theorem readyStatus_coherent {frontier : Nat} {status : ResumeStatus}
    (ready : readyStatus campaignId frontier (frontier + 1) = .ok status) :
    status.Coherent campaignId := by
  refine ⟨?_, fun _ => ⟨frontier, ready⟩⟩
  simp only [readyStatus, bind_eq_ok, pure_eq_ok] at ready
  obtain ⟨_, _, rfl⟩ := ready
  rfl

theorem inconsistent_coherent (frontier : Nat) (sequence : Option Nat)
    (reason : String) :
    (inconsistent campaignId frontier sequence reason).Coherent
      campaignId :=
  ⟨rfl, fun same => by cases same⟩

theorem blocked_coherent {state : ResumeState} (notReady : state ≠ .ready)
    (frontier sequence : Nat) (reason : String) :
    (blocked campaignId state frontier sequence reason).Coherent campaignId :=
  ⟨rfl, fun same => absurd same notReady⟩

theorem reconcileFrom_coherent {evidence : Evidence} {frontier : Nat}
    {status : ResumeStatus}
    (decides : reconcileFrom campaignId evidence frontier (frontier + 1) =
      .ok status) : status.Coherent campaignId := by
  induction remaining : u64Max - (frontier + 1) using Nat.strong_induction_on
    generalizing frontier with
  | _ remaining ih =>
      unfold reconcileFrom at decides
      split at decides
      · split at decides
        · cases decides
          exact inconsistent_coherent _ _ _
        · exact readyStatus_coherent decides
      · simp only at decides
        split_ifs at decides with _ _ _ _ _ _ next
        · cases decides
          exact inconsistent_coherent _ _ _
        · cases decides
          exact inconsistent_coherent _ _ _
        · cases decides
          exact inconsistent_coherent _ _ _
        · cases decides
          exact inconsistent_coherent _ _ _
        · split at decides <;> cases decides
          · exact inconsistent_coherent _ _ _
          · exact blocked_coherent (by decide) _ _ _
        · exact ih _ (by omega) decides rfl
        · cases decides
          exact inconsistent_coherent _ _ _
        · split at decides <;> cases decides
          · exact inconsistent_coherent _ _ _
          · exact blocked_coherent (by decide) _ _ _
        · cases decides
          exact inconsistent_coherent _ _ _

theorem reconcileResumeStatus_coherent {disk : CampaignDir}
    {status : ResumeStatus}
    (reports : reconcileResumeStatus setting campaignId disk = .ok status) :
    status.Coherent campaignId := by
  unfold reconcileResumeStatus at reports
  split at reports
  · cases reports
    exact inconsistent_coherent _ _ _
  · split_ifs at reports
    · cases reports
      exact inconsistent_coherent _ _ _
    · split at reports
      · cases reports
        exact inconsistent_coherent _ _ _
      · cases reports
        exact inconsistent_coherent _ _ _
      · cases reports
        exact inconsistent_coherent _ _ _
      · split at reports
        · cases reports
          exact inconsistent_coherent _ _ _
        · exact reconcileFrom_coherent reports

/-- The content of the directory of a ready campaign. -/
structure ReadyContent (setting : Setting) (campaignId : String)
    (disk : CampaignDir) (frontier : Nat) (log : Bytes) (entries : Entries)
    (done : List Nat) : Prop where
  loads : ∃ campaign,
    loadExistingCampaignReadonly setting campaignId disk = .ok campaign
  events : disk.events = some log
  iterations : disk.iterations = some entries
  failures : disk.failures = some []
  allReadable : AllReadable (readEvent setting campaignId) log
  accepted :
    List.Forall₂ (AcceptedIteration setting campaignId) entries done
  distinct : done.Nodup
  finished : Finished (readable (readEvent setting campaignId) log) done []
    frontier
  room : frontier + 1 ≤ u64Max

theorem ReadyContent.valid {disk : CampaignDir} {frontier : Nat}
    {log : Bytes} {entries : Entries} {done : List Nat}
    (content : ReadyContent setting campaignId disk frontier log entries
      done) : ValidCampaignId campaignId := by
  obtain ⟨_, loads⟩ := content.loads
  exact (loadExisting_valid loads).1

theorem reconcile_of_loads {disk : CampaignDir} {campaign : CampaignRecord}
    {log : Bytes} {entries failures : Entries}
    (loads : loadExistingCampaignReadonly setting campaignId disk =
      .ok campaign) (events : disk.events = some log)
    (iterations : disk.iterations = some entries)
    (failed : disk.failures = some failures) :
    reconcileResumeStatus setting campaignId disk =
      match scanEvidence setting campaignId log entries failures with
      | .error reason => .ok (inconsistent campaignId 0 none reason)
      | .ok evidence => reconcileSequences campaignId evidence := by
  obtain ⟨_, _, binary, _, _, _, shape⟩ := loadExisting_valid loads
  unfold reconcileResumeStatus
  simp only [loads]
  rw [if_neg (by rw [shape]; simp [expectedCampaign])]
  cases scans : scanEvidence setting campaignId log entries failures <;>
    simp only [events, iterations, failed, scans]

/-- A campaign is ready exactly when its directory has such a content. -/
theorem ready_iff {disk : CampaignDir} {frontier : Nat} :
    Ready setting campaignId disk frontier ↔
      ∃ log entries done, ReadyContent setting campaignId disk frontier log
        entries done := by
  constructor
  · rintro ⟨status, reports, reported⟩
    have notInconsistent : ∀ at_ sequence reason,
        status ≠ inconsistent campaignId at_ sequence reason := by
      rintro at_ sequence reason rfl
      cases reported.1
    have decides := reports
    unfold reconcileResumeStatus at decides
    split at decides
    · cases decides
      exact absurd rfl (notInconsistent _ _ _)
    · rename_i campaign loads
      split_ifs at decides
      · cases decides
        exact absurd rfl (notInconsistent _ _ _)
      · split at decides
        · cases decides
          exact absurd rfl (notInconsistent _ _ _)
        · cases decides
          exact absurd rfl (notInconsistent _ _ _)
        · cases decides
          exact absurd rfl (notInconsistent _ _ _)
        · rename_i log entries failures events iterations failed
          split at decides
          · cases decides
            exact absurd rfl (notInconsistent _ _ _)
          · rename_i evidence scans
            obtain ⟨records, done, failedOnes, scanned⟩ :=
              scanEvidence_scanned scans
            obtain ⟨_, verdict, same, otherReported, holds⟩ :=
              reconcileSequences_decided (loadExisting_valid loads).1
                scanned.numbered
            rw [decides] at same
            cases same
            rw [otherReported.unique reported] at holds
            obtain ⟨exactly, complete, room⟩ := holds
            have finished :=
              (scanned.tallies.finished_iff frontier).mp ⟨exactly, complete⟩
            have none := finished.failures
            subst none
            have noFailures := scanned.failures_accepted
            cases noFailures
            rw [scanned.records_eq] at finished
            exact ⟨log, entries, done, ⟨campaign, loads⟩, events, iterations,
              failed, scanned.allReadable, scanned.iterations_accepted,
              scanned.done_nodup, finished, room⟩
  · rintro ⟨log, entries, done, content⟩
    obtain ⟨campaign, loads⟩ := content.loads
    obtain ⟨evidence, scans, tallies⟩ := scanEvidence_accepted
      content.allReadable content.accepted content.distinct
    obtain ⟨_, _, _, scanned⟩ := scanEvidence_scanned scans
    obtain ⟨status, verdict, decides, reported, holds⟩ :=
      reconcileSequences_decided content.valid scanned.numbered
    obtain ⟨exactly, complete⟩ :=
      (tallies.finished_iff frontier).mpr content.finished
    have clear : Verdict.Holds evidence (.ready frontier) :=
      ⟨exactly, complete, content.room⟩
    refine ⟨status, ?_, ?_⟩
    · rw [reconcile_of_loads loads content.events content.iterations
        content.failures, scans]
      exact decides
    · rw [← holds.unique clear]
      exact reported

/-! ### A campaign that has not run yet -/

/-- A campaign that was opened and has not run yet. -/
def freshDir : CampaignDir :=
  { top := [(.utf8 "campaign.json", some (Json.pretty
      (expectedCampaign "c" 0
        { path := "target/release/postgres-postgres"
          sizeBytes := 1
          sha256 := "00" }).toJson ++ [newline]))]
    events := some []
    samples := none
    iterations := some []
    failures := some [] }

theorem freshDir_ready : Ready exampleSetting "c" freshDir 0 := by
  have loads : loadExistingCampaignReadonly exampleSetting "c" freshDir =
      .ok _ := loads_written (show ValidCampaignId "c" by decide) rfl
    (Nat.zero_le _) (by decide) rfl
  refine ready_iff.mpr ⟨[], [], [], ⟨_, loads⟩, rfl, rfl, rfl, ?_, .nil,
    List.nodup_nil, ?_, by decide⟩
  · intro line member
    cases member
  · exact
      { numbers := by intro record member; cases member
        singletons := by
          intro sequence
          simp
          omega
        failures := rfl
        success := by intros; omega
        failure := by intros; omega }

end Endurance
