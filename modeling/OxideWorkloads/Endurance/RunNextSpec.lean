/-
One run-next invocation on a ready campaign: the directory it leaves when it
returns, and every directory it can leave when it fails or is killed.
-/

import OxideWorkloads.Endurance.Readiness
import OxideWorkloads.Endurance.SettleSpec

namespace Endurance

open Foundation
open Foundation.CrashRun
open Foundation.Checks
open Foundation.LineLog (Bytes piece newline Appended)
open Foundation.JsonGrammar (objectFraming)

/-! ### What an invocation leaves -/

/-- The evidence of one executed sequence. -/
structure Evidenced (campaignId : String) (sequence : Nat)
    (texts : List Bytes) (content text : Bytes) : Prop where
  quiet : ∀ text ∈ texts, QuietEvent campaignId sequence text
  singleton : ∃ execution : RecordedExecutionResult,
    execution.Follows (planOf campaignId sequence) ∧
      IsIteration campaignId sequence execution content
  success : IsEvent campaignId sequence terminalSuccessPhase text

/-- The directory after an invocation that returned. -/
def completed (sequence : Nat) (texts : List Bytes) (content text : Bytes)
    (dir : CampaignDir) : CampaignDir :=
  appendEvents (text ++ [newline])
    (withIteration sequence content (withEvents texts dir))

/-- The directories after an invocation that failed or was killed. -/
inductive Left (campaignId : String) (sequence : Nat) (dir : CampaignDir) :
    CampaignDir → Prop where
  | failed {torn : CampaignDir} {text : Bytes}
      (quiet : Torn campaignId sequence dir torn) (entries : Entries)
      (failure : IsEvent campaignId sequence terminalFailurePhase text)
      (landed : Nat) : Left campaignId sequence dir
        (appendEvents (piece text landed) (Folder.failures.set entries torn))
  | replaced {texts : List Bytes} {content text : Bytes}
      {after : CampaignDir}
      (evidenced : Evidenced campaignId sequence texts content text)
      (replaced : Replaced .iterations (iterationFileName sequence) content
        (withEvents texts dir) after) : Left campaignId sequence dir after
  | recorded {texts : List Bytes} {content text : Bytes}
      (evidenced : Evidenced campaignId sequence texts content text)
      (landed : Nat) : Left campaignId sequence dir
        (appendEvents (piece text landed)
          (withIteration sequence content (withEvents texts dir)))

section Left

variable {campaignId : String} {sequence : Nat} {dir torn : CampaignDir}

theorem torn_refl (opened : dir.events.isSome) :
    Torn campaignId sequence dir dir := by
  obtain ⟨log, present⟩ := Option.isSome_iff_exists.mp opened
  refine ⟨log, ?_, ?_⟩
  · rw [present]
    exact .start
  · cases dir
    simp_all

theorem Torn.opened (quiet : Torn campaignId sequence dir torn) :
    torn.events.isSome := by
  obtain ⟨log, _, rfl⟩ := quiet
  rfl

theorem Torn.failures_eq (quiet : Torn campaignId sequence dir torn) :
    torn.failures = dir.failures := by
  obtain ⟨log, _, rfl⟩ := quiet
  rfl

theorem left_torn (empty : dir.failures = some [])
    (quiet : Torn campaignId sequence dir torn) :
    Left campaignId sequence dir torn := by
  have failure : IsEvent campaignId sequence terminalFailurePhase
      (Json.compact (eventJson 0 campaignId sequence terminalFailurePhase
        .null)) := ⟨0, .null, Nat.zero_le _, rfl, rfl⟩
  have none := Left.failed quiet [] failure 0
  have same : Folder.failures.set [] torn = torn := by
    have unchanged := quiet.failures_eq.trans empty
    cases torn
    simp only at unchanged
    simp [Folder.set, Folder.update, unchanged]
  rwa [LineLog.piece_zero, same, appendEvents_nil quiet.opened] at none

end Left

/-! ### The observed iteration -/

section Iteration

variable {setting : Setting} {campaignId : String} {sequence : Nat}
variable {intervalMillis : Nat} {honest : Prop} {before : Bytes}
variable {dir : CampaignDir} {store : EvidenceStore}

/-- The sample log that an iteration finds. -/
def Found (before : Bytes) : Beside :=
  fun _ samples => samples.getD [] = before

theorem sampleBlind_shows (dir : CampaignDir) :
    SampleBlind (fun disk => disk = { dir with samples := disk.samples }) := by
  intro disk samples shown
  simp only at shown ⊢
  rw [shown]

/-- What beside the sampler holds when the iteration has been chosen. -/
theorem triple_observeIteration (role : String)
    (valid : ValidCampaignId campaignId) (positive : 0 < sequence)
    (bounded : sequence ≤ u64Max) (opened : dir.events.isSome)
    (named : store.campaign.campaignId = campaignId) :
    Triple (At honest (Found before) dir)
      (observeIteration setting campaignId sequence intervalMillis store role)
      (fun outcome world =>
        (∀ result count, outcome = .ok (result, count) →
          world.sampler.phase = .finished (.ok count) ∧ ∃ texts,
            (∀ text ∈ texts, QuietEvent campaignId sequence text) ∧
              result.Follows (planOf campaignId sequence) ∧
              At honest (Settled True before) (withEvents texts dir) world) ∧
        (∀ error, outcome = .error error → ¬honest ∧ ∃ torn,
          Torn campaignId sequence dir torn ∧
            At False (Settled False before) torn world))
      (Stop honest (Balanced before) (Torn campaignId sequence dir)) := by
  intro world holds
  have unchanged : withEvents [] dir = dir := appendEvents_nil opened
  have observes : Observes
      (recording (watched_laws honest before) campaignId bounded dir)
      (combinedObserver setting store sequence role) :=
    observes_combined _ bounded named role
  have executes :
      (recording (watched_laws honest before) campaignId bounded dir).Runs
        (executeRecordedExecution setting.databaseUrl campaignId sequence
          (combinedObserver setting store sequence role))
        (fun result => result.Follows (planOf campaignId sequence)) :=
    runs_executeRecordedExecution observes valid positive bounded
  let spawned : World := { world with
    sampler := .spawn
      { samplesPath := setting.samplesPath campaignId
        campaignId := campaignId
        sequence := sequence
        intervalMillis := intervalMillis } }
  have starts : ∃ texts,
      (∀ text ∈ texts, QuietEvent campaignId sequence text) ∧
        At honest (Watched honest True before) (withEvents texts dir)
          spawned := by
    refine ⟨[], by simp, ?_⟩
    rw [unchanged]
    have found : world.disk.samples.getD [] = before := holds.2.1
    refine ⟨holds.1, ?_, holds.2.2⟩
    rw [← found]
    exact watched_spawn honest True _ _
  simp only [observeIteration, changeSampler, wp_bind, wp_modify, wp_attempt]
  refine wp_mono (executes spawned starts) ?_ ?_ ?_
  · rintro result reached ⟨⟨texts, quiet, stands⟩, follows⟩
    refine wp_mono (triple_settle (sampleBlind_shows (withEvents texts dir))
      (.ok result) reached stands) ?_ ?_ ?_
    · rintro outcome after ⟨settled, accepted, succeeds⟩
      refine ⟨fun other count same => ?_, fun error same => ?_⟩
      · obtain ⟨executed, ended⟩ := accepted other count same
        cases executed
        exact ⟨ended, texts, quiet, follows, settled⟩
      · refine ⟨fun isHonest => ?_, _, torn_withEvents quiet bounded,
          settled.1, ?_, False.elim⟩
        · obtain ⟨count, same'⟩ := succeeds isHonest result rfl
          rw [same] at same'
          cases same'
        · exact ⟨settled.2.1.accounts, settled.2.1.closed, False.elim⟩
    · rintro _ after ⟨dishonest, shown, balanced⟩
      exact ⟨dishonest, balanced, _, torn_withEvents quiet bounded, shown⟩
    · rintro after ⟨dishonest, shown, balanced⟩
      exact ⟨dishonest, balanced, _, torn_withEvents quiet bounded, shown⟩
  · rintro error reached ⟨dishonest, watched, torn, quiet, shown⟩
    refine wp_mono (triple_settle (sampleBlind_shows torn)
      (.error error : Except String RecordedExecutionResult) reached
      ⟨shown, watched, False.elim⟩) ?_ ?_ ?_
    · rintro outcome after ⟨settled, accepted, _⟩
      refine ⟨fun other count same => ?_, fun _ _ =>
        ⟨dishonest, torn, quiet, settled⟩⟩
      obtain ⟨executed, _⟩ := accepted other count same
      cases executed
    · rintro _ after ⟨_, shown, balanced⟩
      exact ⟨dishonest, balanced, torn, quiet, shown⟩
    · rintro after ⟨_, shown, balanced⟩
      exact ⟨dishonest, balanced, torn, quiet, shown⟩
  · rintro after ⟨dishonest, watched, torn, quiet, shown⟩
    exact ⟨dishonest, Watched.balanced watched, torn, quiet, shown⟩

/-- Nothing is said about the sampler. -/
def Unwatched : Beside := fun _ _ => True

theorem Stop.dishonest {beside : Beside} {dirs others : CampaignDir → Prop}
    {world : World} (weaker : ∀ after, dirs after → others after)
    (stopped : Stop False beside dirs world) (dishonest : ¬honest) :
    Stop honest Unwatched others world := by
  obtain ⟨_, _, after, one, shown⟩ := stopped
  exact ⟨dishonest, trivial, after, weaker after one, shown⟩

/-- Recording a failure leaves failure evidence behind a torn log. -/
theorem triple_failTorn {torn : CampaignDir} {beside : Beside} {α : Type}
    (error : String) (named : store.campaign.campaignId = campaignId)
    (empty : dir.failures = some [])
    (quiet : Torn campaignId sequence dir torn) :
    Triple (At False beside torn)
      (failIteration (α := α) setting sequence store error)
      (fun _ _ => False)
      (Stop False beside (Left campaignId sequence dir)) :=
  triple_failIteration error named quiet.opened
    (quiet.failures_eq.trans empty)
    (fun entries _ landed failure => .failed quiet entries failure landed)

/-- What a directory allows the next iteration to do. -/
structure Prepared (setting : Setting) (campaignId : String) (sequence : Nat)
    (dir : CampaignDir) : Prop where
  openable : Openable setting campaignId dir
  fresh : hasEntry (iterationFileName sequence)
    (Folder.iterations.get dir) = false
  solid : ∀ entry ∈ Folder.iterations.get dir, ¬TemporaryNamed entry
  empty : dir.failures = some []

/-- A sampled iteration, from the check of its interval to its last event. -/
theorem triple_executeSampled
    (prepared : Prepared setting campaignId sequence dir)
    (valid : ValidCampaignId campaignId) (positive : 0 < sequence)
    (bounded : sequence ≤ u64Max)
    (interval : honest → minSampleIntervalMillis ≤ intervalMillis ∧
      intervalMillis ≤ maxSampleIntervalMillis) :
    Triple (At honest Unwatched dir)
      (executeSampledRecordedIteration setting campaignId sequence
        intervalMillis)
      (fun _ world => ∃ texts content text,
        Evidenced campaignId sequence texts content text ∧
          At honest Unwatched (completed sequence texts content text dir)
            world)
      (Stop honest Unwatched (Left campaignId sequence dir)) := by
  have opened := prepared.openable.events
  have here : Left campaignId sequence dir dir :=
    left_torn prepared.empty (torn_refl opened)
  have plans : (standing honest Unwatched dir).Runs
      (ofExcept (planIteration campaignId sequence))
      (fun plan => plan = planOf campaignId sequence) := by
    rw [planIteration_planOf valid positive]
    exact Regime.runs_pure rfl
  unfold executeSampledRecordedIteration
  refine triple_standing_bind (Regime.runs_check (fun _ => trivial)
    (fun isHonest => ensure_eq_ok.mpr ?_)) here (fun _ _ => ?_)
  · have small : maxSampleIntervalMillis ≤ u64Max := by decide
    exact (interval isHonest).2.trans small
  refine triple_standing_bind (Regime.runs_check (fun _ => trivial)
    (fun isHonest => ensure_eq_ok.mpr (interval isHonest))) here
    (fun _ _ => ?_)
  refine triple_standing_bind plans here ?_
  rintro plan rfl
  refine triple_standing_bind (runs_open prepared.openable) here
    (fun store named => ?_)
  have connects : (standing honest Unwatched dir).Runs
      (perform "resource sampler PostgreSQL connection failed")
      (fun _ => True) := Regime.runs_performed _
  have fails : ∀ {torn : CampaignDir} {beside : Beside} {world : World}
      {post : SampledRecordedIterationOutput → World → Prop} (error : String),
      ¬honest → Torn campaignId sequence dir torn →
        At False beside torn world →
          wp (failIteration setting sequence store error)
            { ok := post
              error := fun _ =>
                Stop honest Unwatched (Left campaignId sequence dir)
              killed := Stop honest Unwatched
                (Left campaignId sequence dir) } world := by
    intro torn beside world post error dishonest quiet stands
    exact wp_mono (triple_failTorn error named prepared.empty quiet world
      stands) (fun _ _ never => never.elim)
      (fun _ _ stopped => stopped.dishonest (fun _ => id) dishonest)
      (fun _ stopped => stopped.dishonest (fun _ => id) dishonest)
  intro world holds
  rw [wp_bind, wp_attempt]
  refine wp_mono (connects world holds) ?_ ?_ ?_
  · rintro _ connected ⟨stands, _⟩
    have found : At honest
        (Found (connected.disk.samples.getD [])) dir connected :=
      ⟨stands.1, rfl, stands.2.2⟩
    simp only [wp_bind]
    refine wp_mono (triple_observeIteration (workloadRole _) valid positive
      bounded opened named connected found) ?_ ?_ ?_
    · rintro outcome after ⟨onOk, onError⟩
      cases outcome with
      | error error =>
          obtain ⟨dishonest, torn, quiet, broken⟩ := onError error rfl
          exact fails error dishonest quiet broken
      | ok pair =>
          obtain ⟨execution, count⟩ := pair
          obtain ⟨_, texts, quiet, follows, settled⟩ :=
            onOk execution count rfl
          have written : Folder.iterations.Created (withEvents texts dir) :=
            congrArg (appendEvents _) prepared.openable.iterations
          have evidenced : ∀ content text,
              IsIteration campaignId sequence execution content →
                IsEvent campaignId sequence terminalSuccessPhase text →
                  Evidenced campaignId sequence texts content text :=
            fun _ _ singleton success =>
              ⟨quiet, ⟨execution, follows, singleton⟩, success⟩
          have replaced : ∀ content other,
              IsIteration campaignId sequence execution content →
                Replaced .iterations (iterationFileName sequence) content
                  (withEvents texts dir) other →
                    Left campaignId sequence dir other :=
            fun content other singleton replaced =>
              .replaced (evidenced content _ singleton
                (successText_isEvent sequence)) replaced
          have torn : ∀ content text landed,
              IsIteration campaignId sequence execution content →
                IsEvent campaignId sequence terminalSuccessPhase text →
                  Left campaignId sequence dir (appendEvents
                    (piece text landed) (withIteration sequence content
                      (withEvents texts dir))) :=
            fun content text landed singleton success =>
              .recorded (evidenced content text singleton success) landed
          have finalizes : Triple
              (At honest (Settled True (connected.disk.samples.getD []))
                (withEvents texts dir))
              (finalizeSuccess setting store campaignId sequence execution)
              _ _ :=
            triple_finalizeSuccess named rfl written prepared.fresh
              prepared.solid replaced torn
          simp only [wp_bind]
          refine wp_mono (finalizes after settled) ?_ ?_ ?_
          · rintro recorded last ⟨content, text, singleton, success, stands⟩
            exact ⟨texts, content, text,
              evidenced content text singleton success, stands.1, trivial,
              stands.2.2⟩
          · rintro _ last ⟨dishonest, _, other, left, shown⟩
            exact ⟨dishonest, trivial, other, left, shown⟩
          · rintro last ⟨dishonest, _, other, left, shown⟩
            exact ⟨dishonest, trivial, other, left, shown⟩
    · rintro _ after ⟨dishonest, _, torn, quiet, shown⟩
      exact ⟨dishonest, trivial, torn, left_torn prepared.empty quiet, shown⟩
    · rintro after ⟨dishonest, _, torn, quiet, shown⟩
      exact ⟨dishonest, trivial, torn, left_torn prepared.empty quiet, shown⟩
  · rintro error after ⟨dishonest, _, other, same, shown⟩
    rw [same] at shown
    have stands : At False Unwatched dir after := ⟨shown, trivial, False.elim⟩
    exact fails error dishonest (torn_refl opened) stands
  · rintro after ⟨dishonest, _, other, same, shown⟩
    rw [same] at shown
    exact ⟨dishonest, trivial, _, here, shown⟩

end Iteration

/-! ### The selection -/

section RunNext

variable {setting : Setting} {campaignId : String} {frontier : Nat}
variable {intervalMillis : Nat} {honest : Prop} {disk : CampaignDir}
variable {world : World}

/-- The status of a campaign that is ready behind a frontier. -/
def readyOf (campaignId : String) (frontier : Nat) : ResumeStatus :=
  { schema := resumeSchema
    schemaVersion := schemaVersion
    campaignId := campaignId
    state := .ready
    frontierSequence := frontier
    nextSequence := some (frontier + 1)
    nextPlan := some (planOf campaignId (frontier + 1))
    blockedSequence := none
    reason := none }

theorem readyStatus_eq_ok {status : ResumeStatus}
    (ready : readyStatus campaignId frontier (frontier + 1) = .ok status) :
    status = readyOf campaignId frontier := by
  simp only [readyStatus, bind_eq_ok, pure_eq_ok, planIteration_eq_ok]
    at ready
  obtain ⟨_, ⟨_, _, rfl⟩, rfl⟩ := ready
  rfl

/-- There is one report of readiness for each frontier. -/
theorem ready_iff_reports :
    Ready setting campaignId disk frontier ↔
      reconcileResumeStatus setting campaignId disk =
        .ok (readyOf campaignId frontier) := by
  constructor
  · rintro ⟨status, reports, reported⟩
    obtain ⟨other, ready⟩ :=
      (reconcileResumeStatus_coherent reports).ready reported.1
    have same := readyStatus_eq_ok ready
    subst same
    have frontiers : other = frontier := reported.2.1
    rw [reports, frontiers]
  · exact fun reports => ⟨_, reports, rfl, rfl, rfl⟩

theorem Ready.unique {other : Nat}
    (first : Ready setting campaignId disk frontier)
    (second : Ready setting campaignId disk other) : frontier = other := by
  rw [ready_iff_reports] at first second
  rw [first] at second
  injection second with same
  exact congrArg ResumeStatus.frontierSequence same

/-- A reconciliation always reports something. -/
theorem reconcile_total (setting : Setting) (campaignId : String)
    (disk : CampaignDir) :
    ∃ status, reconcileResumeStatus setting campaignId disk = .ok status := by
  unfold reconcileResumeStatus
  split
  · exact ⟨_, rfl⟩
  · rename_i campaign loads
    split_ifs
    · exact ⟨_, rfl⟩
    · split
      · exact ⟨_, rfl⟩
      · exact ⟨_, rfl⟩
      · exact ⟨_, rfl⟩
      · split
        · exact ⟨_, rfl⟩
        · rename_i evidence scans
          obtain ⟨_, _, _, scanned⟩ := scanEvidence_scanned scans
          obtain ⟨status, _, decides, _⟩ := reconcileSequences_decided
            (loadExisting_valid loads).1 scanned.numbered
          exact ⟨status, decides⟩

/-- What reports a state other than ready is not ready. -/
theorem state_ready_iff {status : ResumeStatus}
    (reports : reconcileResumeStatus setting campaignId disk = .ok status) :
    status.state = .ready ↔
      ∃ frontier, Ready setting campaignId disk frontier := by
  constructor
  · intro state
    obtain ⟨other, ready⟩ :=
      (reconcileResumeStatus_coherent reports).ready state
    rw [readyStatus_eq_ok ready] at reports
    exact ⟨other, ready_iff_reports.mpr reports⟩
  · rintro ⟨other, ready⟩
    rw [ready_iff_reports.mp ready] at reports
    cases reports
    rfl

theorem iterationFileName_injective {first second : Nat}
    (same : iterationFileName first = iterationFileName second) :
    first = second := by
  have texts := congrArg String.toList same
  rw [iterationFileName, iterationFileName, String.toList_append,
    String.toList_append] at texts
  exact Text.zeroPadded_injective
    (String.toList_inj.mp (List.append_cancel_right texts))

/-- A ready campaign lets the next sequence be executed. -/
theorem ReadyContent.prepared {log : Bytes} {entries : Entries}
    {done : List Nat}
    (content : ReadyContent setting campaignId disk frontier log entries
      done) : Prepared setting campaignId (frontier + 1) disk := by
  have shown : Folder.iterations.get disk = entries := by
    simp [Folder.get, content.iterations]
  have accepted : ∀ entry ∈ entries, ∃ sequence ∈ done,
      AcceptedIteration setting campaignId entry sequence :=
    fun _ member => exists_of_forall₂_left content.accepted member
  constructor
  · refine ⟨content.loads, ?_, ?_, ?_⟩
    · rw [content.events]
      rfl
    · have present := content.iterations
      cases disk
      simp only at present
      simp [Folder.Created, Folder.update, present]
    · have present := content.failures
      cases disk
      simp only at present
      simp [Folder.Created, Folder.update, present]
  · rw [shown, hasEntry, List.any_eq_false]
    intro entry member
    obtain ⟨sequence, inDone, holds⟩ := accepted entry member
    have range := (content.finished.singletons sequence).mp inDone
    rw [holds.name, decide_eq_true_eq]
    intro same
    injection same with names
    have number := iterationFileName_injective names
    omega
  · rw [shown]
    intro entry member temporary
    obtain ⟨sequence, _, holds⟩ := accepted entry member
    exact not_acceptedIteration_temporary temporary holds
  · exact content.failures

/-- The invocation returned with the evidence of the selected sequence. -/
def Returned (campaignId : String) (frontier : Nat) (disk : CampaignDir)
    (result : RunNextResult) (after : World) : Prop :=
  result.preExecution = readyOf campaignId frontier ∧
    result.selectedSequence = some (frontier + 1) ∧
    result.execution.isSome ∧
    ∃ texts content text,
      Evidenced campaignId (frontier + 1) texts content text ∧
        Shows (completed (frontier + 1) texts content text disk) after

/-- The invocation failed or was killed. -/
def Interrupted (campaignId : String) (frontier : Nat) (disk : CampaignDir)
    (after : World) : Prop :=
  ∃ dir, Left campaignId (frontier + 1) disk dir ∧ Shows dir after

/-- Executing what a ready status selects. -/
theorem wp_executeSelected
    (ready : Ready setting campaignId world.disk frontier)
    (interval : honest → minSampleIntervalMillis ≤ intervalMillis ∧
      intervalMillis ≤ maxSampleIntervalMillis)
    (faultless : honest → world.supply = (fun _ => faultlessAnswer)) :
    wp (executeSelectedSampledRecordedIteration setting campaignId
        (readyOf campaignId frontier) intervalMillis)
      { ok := fun result after =>
          Returned campaignId frontier world.disk result after ∧
            (honest → after.supply = (fun _ => faultlessAnswer))
        error := fun _ after =>
          ¬honest ∧ Interrupted campaignId frontier world.disk after
        killed := fun after =>
          ¬honest ∧ Interrupted campaignId frontier world.disk after }
      world := by
  obtain ⟨log, entries, done, content⟩ := ready_iff.mp ready
  have selects : selectPlan (readyOf campaignId frontier) campaignId =
      .ok (frontier + 1, planOf campaignId (frontier + 1)) := by
    simp [selectPlan, readyOf, require, ensure, planOf, bind, Except.bind,
      pure, Except.pure]
  have same : ∀ message : String, ensure
      ((readyOf campaignId frontier).campaignId = campaignId) message =
        .ok () := fun _ => ensure_eq_ok.mpr rfl
  have holds : At honest Unwatched world.disk world :=
    ⟨rfl, trivial, faultless⟩
  have executes := triple_executeSampled content.prepared content.valid
    (Nat.succ_pos frontier) content.room interval world holds
  unfold executeSelectedSampledRecordedIteration executeSelectedWith
  rw [wp_bind, same, wp_ofExcept]
  rw [if_neg (not_not_intro (show (readyOf campaignId frontier).state =
    .ready from rfl)), selects]
  simp only [wp_bind, wp_ofExcept, wp_pure]
  refine wp_mono executes ?_ ?_ ?_
  · rintro output after ⟨texts, content, text, evidenced, stands⟩
    exact ⟨⟨rfl, rfl, rfl, texts, content, text, evidenced, stands.1⟩,
      stands.2.2⟩
  · rintro _ after ⟨dishonest, _, dir, left, shown⟩
    exact ⟨dishonest, dir, left, shown⟩
  · rintro after ⟨dishonest, _, dir, left, shown⟩
    exact ⟨dishonest, dir, left, shown⟩

/-- A run-next invocation on a ready campaign. -/
theorem wp_executeNext_ready
    (ready : Ready setting campaignId world.disk frontier)
    (interval : honest → minSampleIntervalMillis ≤ intervalMillis ∧
      intervalMillis ≤ maxSampleIntervalMillis)
    (faultless : honest → world.supply = (fun _ => faultlessAnswer)) :
    wp (executeNextSampledRecordedIteration setting campaignId intervalMillis)
      { ok := fun result after =>
          Returned campaignId frontier world.disk result after ∧
            (honest → after.supply = (fun _ => faultlessAnswer))
        error := fun _ after =>
          ¬honest ∧ Interrupted campaignId frontier world.disk after
        killed := fun after =>
          ¬honest ∧ Interrupted campaignId frontier world.disk after }
      world := by
  have selected := wp_executeSelected ready interval faultless
  unfold executeNextSampledRecordedIteration readDisk
  simp only [wp_bind, wp_state, wp_pure, wp_ofExcept,
    ready_iff_reports.mp ready]
  exact selected

/-- What a returned invocation on a ready campaign has done. -/
theorem executeNext_returned {result : RunNextResult} {after : World}
    (ready : Ready setting campaignId world.disk frontier)
    (returned : executeNextSampledRecordedIteration setting campaignId
      intervalMillis world = (.ok result, after)) :
    Returned campaignId frontier world.disk result after :=
  (wp_ends (@wp_executeNext_ready setting campaignId frontier intervalMillis
    False world ready False.elim False.elim) returned).1

/-- Where nothing fails, an invocation on a ready campaign returns. -/
theorem executeNext_faultless
    (ready : Ready setting campaignId world.disk frontier)
    (interval : minSampleIntervalMillis ≤ intervalMillis ∧
      intervalMillis ≤ maxSampleIntervalMillis)
    (faultless : world.supply = (fun _ => faultlessAnswer)) :
    ∃ result after, executeNextSampledRecordedIteration setting campaignId
        intervalMillis world = (.ok result, after) ∧
      Returned campaignId frontier world.disk result after ∧
      after.supply = (fun _ => faultlessAnswer) := by
  have ends := @wp_executeNext_ready setting campaignId frontier
    intervalMillis True world ready (fun _ => interval) (fun _ => faultless)
  obtain ⟨result, after, returned, reached, supply⟩ := returns_of_wp
    (wp_mono ends (fun _ _ reached => reached)
      (fun _ _ interrupted => interrupted.1 trivial)
      (fun _ interrupted => interrupted.1 trivial))
  exact ⟨result, after, returned, reached, supply trivial⟩

/-- What an invocation returns for a campaign that is not ready. -/
def refused (campaignId : String) (status : ResumeStatus) : RunNextResult :=
  { campaignId := campaignId
    preExecution := status
    selectedSequence := none
    selectedPlan := none
    execution := none }

/-- A run-next invocation on any other campaign does nothing. -/
theorem executeNext_unready {status : ResumeStatus}
    (reports : reconcileResumeStatus setting campaignId world.disk =
      .ok status) (unready : status.state ≠ .ready) :
    executeNextSampledRecordedIteration setting campaignId intervalMillis
        world = (.ok (refused campaignId status), world) := by
  have same : ∀ message : String,
      ensure (status.campaignId = campaignId) message = .ok () :=
    fun _ => ensure_eq_ok.mpr (reconcileResumeStatus_coherent reports).campaign
  apply ends_of_wp
  unfold executeNextSampledRecordedIteration readDisk
    executeSelectedSampledRecordedIteration executeSelectedWith
  simp only [wp_bind, wp_state, wp_pure, wp_ofExcept, reports, same]
  rw [if_pos unready]
  exact ⟨rfl, rfl⟩

end RunNext

end Endurance
