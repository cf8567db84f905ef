/-
How an invocation moves the durable frontier: what the next reconciliation
reports after an invocation that returned.

Records that land behind a log with a newline at its end are counted; behind
an unterminated log the first of them spoils a line for good.
-/

import OxideWorkloads.Endurance.RunNextSpec

namespace Endurance

open Foundation
open Foundation.CrashRun
open Foundation.Checks
open Foundation.LineLog (Bytes newline AllReadable readable Terminated Appended)
open Foundation.JsonGrammar (objectFraming)

variable {setting : Setting} {campaignId : String} {frontier : Nat}
variable {disk : CampaignDir} {log : Bytes} {entries : Entries}
variable {done : List Nat}

/-- The sample log has no part in a reconciliation. -/
theorem reconcile_shows {dir : CampaignDir} {world : World}
    (shown : Shows dir world) :
    reconcileResumeStatus setting campaignId world.disk =
      reconcileResumeStatus setting campaignId dir := by
  rw [shown]
  rfl

theorem ready_shows {dir : CampaignDir} {world : World}
    (shown : Shows dir world) :
    Ready setting campaignId world.disk frontier ↔
      Ready setting campaignId dir frontier := by
  rw [Ready, Ready, reconcile_shows shown]

/-! ### Reports -/

/-- A log with an unreadable line blocks the campaign at the beginning. -/
theorem reconcile_unreadable {campaign : CampaignRecord}
    {failures : Entries}
    (loads : loadExistingCampaignReadonly setting campaignId disk =
      .ok campaign) (events : disk.events = some log)
    (iterations : disk.iterations = some entries)
    (failed : disk.failures = some failures)
    (unreadable : ¬AllReadable (readEvent setting campaignId) log) :
    ∃ reason, reconcileResumeStatus setting campaignId disk =
      .ok (inconsistent campaignId 0 none reason) := by
  rw [reconcile_of_loads loads events iterations failed]
  cases scans : scanEvidence setting campaignId log entries failures with
  | error reason => exact ⟨reason, rfl⟩
  | ok evidence =>
      obtain ⟨_, _, _, scanned⟩ := scanEvidence_scanned scans
      exact absurd scanned.allReadable unreadable

/-- A directory with the evidence of the sequences up to a frontier, and
nothing else. -/
structure Recorded (setting : Setting) (campaignId : String)
    (disk : CampaignDir) (frontier : Nat) (log : Bytes) (entries : Entries)
    (done : List Nat) : Prop where
  loads : ∃ campaign,
    loadExistingCampaignReadonly setting campaignId disk = .ok campaign
  events : disk.events = some log
  iterations : disk.iterations = some entries
  failures : disk.failures = some []
  allReadable : AllReadable (readEvent setting campaignId) log
  accepted :
    List.Forall₂ (AcceptedIteration setting campaignId) entries done
  distinct : done.Nodup
  finished : Finished (readable (readEvent setting campaignId) log) done []
    frontier

theorem ReadyContent.recorded
    (content : ReadyContent setting campaignId disk frontier log entries
      done) : Recorded setting campaignId disk frontier log entries done :=
  { content with }

/-- With every number used up there is no next sequence. -/
def exhausted (campaignId : String) : ResumeStatus :=
  inconsistent campaignId u64Max (some u64Max)
    "sequence frontier overflowed u64"

theorem reconcileFrom_exhausted {evidence : Evidence}
    (complete : CompleteUpTo evidence u64Max) (below : frontier < u64Max) :
    reconcileFrom campaignId evidence frontier (frontier + 1) =
      .ok (exhausted campaignId) := by
  induction remaining : u64Max - frontier using Nat.strong_induction_on
    generalizing frontier with
  | _ remaining ih =>
      obtain ⟨current, found, success, singleton, failure, files⟩ :=
        complete (frontier + 1) (by omega) (by omega)
      unfold reconcileFrom
      rw [found]
      simp only [success, singleton, failure, files]
      rw [if_neg (by simp), if_neg (by simp), if_neg (by simp),
        if_neg (by simp), if_neg (by simp), if_pos (by simp)]
      by_cases room : frontier + 1 + 1 ≤ u64Max
      · rw [if_pos room]
        exact ih _ (by omega) (by omega) rfl
      · have last : frontier + 1 = u64Max := by omega
        rw [if_neg room, last]
        rfl

/-- What a campaign reports behind a frontier. -/
def statusAt (campaignId : String) (frontier : Nat) : ResumeStatus :=
  if frontier + 1 ≤ u64Max then readyOf campaignId frontier
  else exhausted campaignId

theorem statusAt_frontier (bounded : frontier ≤ u64Max) :
    (statusAt campaignId frontier).frontierSequence = frontier := by
  unfold statusAt
  split_ifs with room
  · rfl
  · have last : frontier = u64Max := by omega
    rw [last]
    rfl

/-- A directory with the evidence of a prefix reports its frontier. -/
theorem reconcile_recorded (bounded : frontier ≤ u64Max)
    (recorded : Recorded setting campaignId disk frontier log entries done) :
    reconcileResumeStatus setting campaignId disk =
      .ok (statusAt campaignId frontier) := by
  unfold statusAt
  split_ifs with room
  · exact ready_iff_reports.mp
      (ready_iff.mpr ⟨log, entries, done, { recorded with room := room }⟩)
  · obtain ⟨campaign, loads⟩ := recorded.loads
    obtain ⟨evidence, scans, tallies⟩ := scanEvidence_accepted
      recorded.allReadable recorded.accepted recorded.distinct
    obtain ⟨_, complete⟩ :=
      (tallies.finished_iff frontier).mpr recorded.finished
    have last : frontier = u64Max := by omega
    rw [last] at complete
    rw [reconcile_of_loads loads recorded.events recorded.iterations
      recorded.failures, scans]
    exact reconcileFrom_exhausted complete (by decide)

/-! ### The next sequence -/

section Next

variable {texts : List Bytes} {content text : Bytes}

/-- Records of the next sequence, one of them the terminal success. -/
theorem Finished.extend {records added : List EventRecord}
    (finished : Finished records done [] frontier)
    (numbers : ∀ record ∈ added, record.sequence = frontier + 1)
    (success : added.countP
      (fun record => record.phase = terminalSuccessPhase) = 1)
    (failure : ∀ record ∈ added, record.phase ≠ terminalFailurePhase) :
    Finished (records ++ added) (done ++ [frontier + 1]) []
      (frontier + 1) where
  numbers := by
    intro record member
    rcases List.mem_append.mp member with earlier | new
    · have range := finished.numbers record earlier
      exact ⟨range.1, by omega⟩
    · rw [numbers record new]
      exact ⟨by omega, le_rfl⟩
  singletons := by
    intro sequence
    rw [List.mem_append, List.mem_singleton, finished.singletons]
    omega
  failures := rfl
  success := by
    intro sequence low high
    rw [List.countP_append]
    by_cases last : sequence = frontier + 1
    · have none : records.countP (fun record =>
          record.sequence = sequence ∧
            record.phase = terminalSuccessPhase) = 0 := by
        rw [List.countP_eq_zero]
        intro record member
        have range := finished.numbers record member
        simp only [decide_eq_true_eq]
        omega
      rw [none, Nat.zero_add, ← success]
      refine List.countP_congr (fun record member => ?_)
      simp [numbers record member, last]
    · have none : added.countP (fun record =>
          record.sequence = sequence ∧
            record.phase = terminalSuccessPhase) = 0 := by
        rw [List.countP_eq_zero]
        intro record member
        simp only [decide_eq_true_eq, numbers record member]
        omega
      rw [none, Nat.add_zero]
      exact finished.success sequence low (by omega)
  failure := by
    intro sequence low high
    rw [List.countP_append]
    have none : added.countP (fun record =>
        record.sequence = sequence ∧
          record.phase = terminalFailurePhase) = 0 := by
      rw [List.countP_eq_zero]
      intro record member
      simp [failure record member]
    rw [none, Nat.add_zero]
    by_cases last : sequence = frontier + 1
    · rw [List.countP_eq_zero]
      intro record member
      have range := finished.numbers record member
      simp only [decide_eq_true_eq]
      omega
    · exact finished.failure sequence low (by omega)

theorem QuietEvent.read (setting : Setting) {sequence : Nat}
    (quiet : QuietEvent campaignId sequence text) (positive : sequence ≠ 0)
    (bounded : sequence ≤ u64Max) :
    ∃ record, readEvent setting campaignId text = some record ∧
      record.sequence = sequence ∧ record.phase ≠ terminalSuccessPhase ∧
        record.phase ≠ terminalFailurePhase := by
  obtain ⟨phase, named, notSuccess, notFailure, isEvent⟩ := quiet
  exact ⟨_, isEvent.read positive bounded named, rfl, notSuccess, notFailure⟩

/-- The lines that an executed sequence adds. -/
theorem Evidenced.records {sequence : Nat}
    (evidenced : Evidenced campaignId sequence texts content text)
    (bounded : sequence ≤ u64Max) :
    ∀ line ∈ texts ++ [text], objectFraming.record line := by
  intro line member
  rcases List.mem_append.mp member with early | last
  · exact (evidenced.quiet line early).record bounded
  · rw [List.mem_singleton.mp last]
    exact evidenced.success.record bounded

theorem completed_events (sequence : Nat) (texts : List Bytes)
    (content text : Bytes) (events : disk.events = some log) :
    (completed sequence texts content text disk).events =
      some (log ++ (texts ++ [text]).flatMap
        (fun line => line ++ [newline])) := by
  simp [completed, appendEvents, withIteration, Folder.set, Folder.update,
    withEvents, events, List.flatMap_append]

theorem completed_iterations (sequence : Nat) (texts : List Bytes)
    (content text : Bytes) (iterations : disk.iterations = some entries) :
    (completed sequence texts content text disk).iterations =
      some (entries ++
        [(.utf8 (iterationFileName sequence), some content)]) := by
  simp [completed, appendEvents, withIteration, Folder.set, Folder.update,
    Folder.get, withEvents, iterations]

/-- Behind a terminated log the next sequence is counted. -/
theorem Recorded.completed
    (recorded : Recorded setting campaignId disk frontier log entries done)
    (evidenced : Evidenced campaignId (frontier + 1) texts content text)
    (terminated : Terminated log) (room : frontier + 1 ≤ u64Max) :
    Recorded setting campaignId
      (completed (frontier + 1) texts content text disk) (frontier + 1)
      (log ++ (texts ++ [text]).flatMap (fun line => line ++ [newline]))
      (entries ++
        [(.utf8 (iterationFileName (frontier + 1)), some content)])
      (done ++ [frontier + 1]) := by
  have lines := (LineLog.lines_texts terminated (evidenced.records room)).2
  have positive : frontier + 1 ≠ 0 := Nat.succ_ne_zero frontier
  have success : readEvent setting campaignId text =
      some (eventOf campaignId (frontier + 1) terminalSuccessPhase) :=
    evidenced.success.read positive room (by decide)
  have reads : ∀ line ∈ texts ++ [text], ∃ record,
      readEvent setting campaignId line = some record ∧
        record.sequence = frontier + 1 ∧
          record.phase ≠ terminalFailurePhase := by
    intro line member
    rcases List.mem_append.mp member with early | last
    · obtain ⟨record, read, number, _, notFailure⟩ :=
        (evidenced.quiet line early).read setting positive room
      exact ⟨record, read, number, notFailure⟩
    · rw [List.mem_singleton.mp last]
      exact ⟨_, success, rfl, by simp [eventOf, terminalSuccessPhase,
        terminalFailurePhase]⟩
  have added : ∀ record ∈ (texts ++ [text]).filterMap
      (readEvent setting campaignId), record.sequence = frontier + 1 ∧
        record.phase ≠ terminalFailurePhase := by
    intro record member
    obtain ⟨line, inLines, read⟩ := List.mem_filterMap.mp member
    obtain ⟨other, same, number, notFailure⟩ := reads line inLines
    rw [read] at same
    cases same
    exact ⟨number, notFailure⟩
  refine ⟨?_, completed_events _ _ _ _ recorded.events,
    completed_iterations _ _ _ _ recorded.iterations, recorded.failures,
    ?_, ?_, ?_, ?_⟩
  · obtain ⟨campaign, loads⟩ := recorded.loads
    exact ⟨campaign, (loadExisting_congr rfl).trans loads⟩
  · intro line member
    rw [lines] at member
    rcases List.mem_append.mp member with earlier | new
    · exact recorded.allReadable line earlier
    · obtain ⟨record, read, _⟩ := reads line new
      rw [read]
      rfl
  · obtain ⟨execution, follows, singleton⟩ := evidenced.singleton
    have fits := follows.bounded room
    exact List.rel_append recorded.accepted (.cons (singleton.accepted
      follows.sequence_eq (Nat.succ_pos frontier) fits) .nil)
  · rw [List.nodup_append]
    refine ⟨recorded.distinct, by simp, ?_⟩
    intro one inDone other last same
    rw [List.mem_singleton.mp last] at same
    have range := (recorded.finished.singletons one).mp inDone
    omega
  · rw [readable, lines, List.filterMap_append, ← readable]
    refine recorded.finished.extend (fun record member =>
      (added record member).1) ?_ (fun record member =>
      (added record member).2)
    rw [List.filterMap_append, List.countP_append]
    have none : (texts.filterMap (readEvent setting campaignId)).countP
        (fun record => record.phase = terminalSuccessPhase) = 0 := by
      rw [List.countP_eq_zero]
      intro record member
      obtain ⟨line, inTexts, read⟩ := List.mem_filterMap.mp member
      obtain ⟨other, same, _, notSuccess, _⟩ :=
        (evidenced.quiet line inTexts).read setting positive room
      rw [read] at same
      cases same
      simpa using notSuccess
    rw [none]
    simp [success, eventOf]

/-- Behind an unterminated log the first line of the next sequence is lost,
and the log with it. -/
theorem Evidenced.unreadable {sequence : Nat}
    (evidenced : Evidenced campaignId sequence texts content text)
    (bounded : sequence ≤ u64Max)
    (allReadable : AllReadable (readEvent setting campaignId) log)
    (unterminated : ¬Terminated log) :
    ¬AllReadable (readEvent setting campaignId)
      (log ++ (texts ++ [text]).flatMap (fun line => line ++ [newline])) := by
  have sound : ∀ {line record}, readEvent setting campaignId line =
      some record → objectFraming.finished line := readEvent_finished
  have framed := LineLog.framed_of_allReadable sound allReadable
  have records := evidenced.records bounded
  apply LineLog.not_allReadable_of_broken sound
  cases lines : texts ++ [text] with
  | nil => simp at lines
  | cons first rest =>
      rw [lines] at records
      have broken := LineLog.broken_of_unterminated framed unterminated
        (records first List.mem_cons_self)
      have more : Appended objectFraming (fun _ => True)
          (log ++ (first ++ [newline]))
          (log ++ (first ++ [newline]) ++
            rest.flatMap (fun line => line ++ [newline])) :=
        Appended.texts (fun line member =>
          ⟨records line (List.mem_cons_of_mem _ member), trivial⟩)
      rw [List.flatMap_cons, ← List.append_assoc]
      exact more.broken broken

/-- An executed sequence advances the frontier of a terminated log. -/
theorem reconcile_completed
    (ready : Ready setting campaignId disk frontier)
    (evidenced : Evidenced campaignId (frontier + 1) texts content text)
    (terminated : Terminated (disk.events.getD [])) :
    reconcileResumeStatus setting campaignId
        (completed (frontier + 1) texts content text disk) =
      .ok (statusAt campaignId (frontier + 1)) := by
  obtain ⟨log, entries, done, content_⟩ := ready_iff.mp ready
  rw [content_.events] at terminated
  exact reconcile_recorded content_.room
    (content_.recorded.completed evidenced terminated content_.room)

/-- It blocks the campaign behind an unterminated one. -/
theorem reconcile_completed_torn
    (ready : Ready setting campaignId disk frontier)
    (evidenced : Evidenced campaignId (frontier + 1) texts content text)
    (unterminated : ¬Terminated (disk.events.getD [])) :
    ∃ reason, reconcileResumeStatus setting campaignId
        (completed (frontier + 1) texts content text disk) =
      .ok (inconsistent campaignId 0 none reason) := by
  obtain ⟨log, entries, done, content_⟩ := ready_iff.mp ready
  rw [content_.events] at unterminated
  obtain ⟨campaign, loads⟩ := content_.loads
  exact reconcile_unreadable ((loadExisting_congr rfl).trans loads)
    (completed_events _ _ _ _ content_.events)
    (completed_iterations _ _ _ _ content_.iterations) content_.failures
    (evidenced.unreadable content_.room content_.allReadable unterminated)

end Next

end Endurance
