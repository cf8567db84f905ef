/-
A write that was cut: for every campaign that is ready in spite of the cut,
whether the next invocation advances its frontier.
-/

import OxideWorkloads.Endurance.Frontier

namespace Endurance

open Foundation
open Foundation.CrashRun
open Foundation.Checks
open Foundation.LineLog (Bytes piece newline AllReadable readable Terminated)
open Foundation.JsonGrammar (objectFraming)

variable {setting : Setting} {campaignId : String} {frontier : Nat}

theorem ready_completed_iff {disk : CampaignDir} {texts : List Bytes}
    {content text : Bytes}
    (ready : Ready setting campaignId disk frontier)
    (evidenced : Evidenced campaignId (frontier + 1) texts content text) :
    Ready setting campaignId
        (completed (frontier + 1) texts content text disk) (frontier + 1) ↔
      Terminated (disk.events.getD []) ∧ frontier + 2 ≤ u64Max := by
  rw [ready_iff_reports]
  by_cases terminated : Terminated (disk.events.getD [])
  · rw [reconcile_completed ready evidenced terminated, statusAt]
    constructor
    · intro same
      refine ⟨terminated, ?_⟩
      by_contra full
      rw [if_neg full] at same
      injection same with statuses
      have states := congrArg ResumeStatus.state statuses
      cases states
    · rintro ⟨_, room⟩
      rw [if_pos room]
  · obtain ⟨reason, reports⟩ :=
      reconcile_completed_torn ready evidenced terminated
    rw [reports]
    constructor
    · intro same
      injection same with statuses
      have states := congrArg ResumeStatus.state statuses
      cases states
    · rintro ⟨holds, _⟩
      exact absurd holds terminated

/-- A write may be cut anywhere: if the campaign is ready all the same, the
next invocation that returns advances the frontier by one exactly if the log
that survived ends with a newline and a further sequence number is left. -/
theorem tornAppend_exact {dir : CampaignDir} {text : Bytes}
    {landed intervalMillis : Nat} {supply : Nat → Answer}
    {result : RunNextResult} {after : World}
    (ready : Ready setting campaignId (appendEvents (piece text landed) dir)
      frontier)
    (returned : executeNextSampledRecordedIteration setting campaignId
      intervalMillis
      (World.start (appendEvents (piece text landed) dir) supply) =
        (.ok result, after)) :
    Ready setting campaignId after.disk (frontier + 1) ↔
      Terminated (dir.events.getD [] ++ piece text landed) ∧
        frontier + 2 ≤ u64Max := by
  obtain ⟨_, _, _, texts, content, success, evidenced, shown⟩ :=
    executeNext_returned ready returned
  rw [ready_shows shown]
  exact ready_completed_iff ready evidenced

/-! ### A campaign that a cut spoils -/

/-- A cut in front of the newline is not seen. -/
theorem ready_cut {dir : CampaignDir} {log text : Bytes}
    (events : dir.events = some log) (terminated : Terminated log)
    (isRecord : objectFraming.record text)
    (ready : Ready setting campaignId
      (appendEvents (text ++ [newline]) dir) frontier) :
    Ready setting campaignId (appendEvents (piece text text.length) dir)
      frontier := by
  obtain ⟨whole, entries, done, content⟩ := ready_iff.mp ready
  have same : whole = log ++ (text ++ [newline]) := by
    have shown := content.events
    simp only [appendEvents, events, Option.getD_some, Option.some.injEq]
      at shown
    exact shown.symm
  have lines : LineLog.lines (log ++ text) = LineLog.lines whole := by
    rw [same, LineLog.lines_clean terminated isRecord,
      LineLog.lines_dangling terminated isRecord]
  have reads : readable (readEvent setting campaignId) (log ++ text) =
      readable (readEvent setting campaignId) whole := by
    rw [readable, readable, lines]
  obtain ⟨campaign, loads⟩ := content.loads
  refine ready_iff.mpr ⟨log ++ text, entries, done,
    ⟨campaign, (loadExisting_congr rfl).trans loads⟩, ?_,
    content.iterations, content.failures, ?_, content.accepted,
    content.distinct, ?_, content.room⟩
  · rw [LineLog.piece_torn le_rfl, List.take_length]
    simp [appendEvents, events]
  · intro line member
    rw [lines] at member
    exact content.allReadable line member
  · rw [reads]
    exact content.finished

theorem exists_cut : ∃ dir text first before,
    executeNextSampledRecordedIteration exampleSetting "c" 10
        (World.start freshDir (fun _ => faultlessAnswer)) =
      (.ok first, before) ∧
    Shows (appendEvents (text ++ [newline]) dir) before ∧
    Ready exampleSetting "c" (appendEvents (piece text text.length) dir) 1 ∧
    ¬Terminated
      ((appendEvents (piece text text.length) dir).events.getD []) := by
  let start := World.start freshDir (fun _ => faultlessAnswer)
  have fresh : Ready exampleSetting "c" start.disk 0 := freshDir_ready
  obtain ⟨first, before, runs, ⟨_, _, _, texts, content, text, evidenced,
    shown⟩, _⟩ := executeNext_faultless fresh
      (show minSampleIntervalMillis ≤ 10 ∧ 10 ≤ maxSampleIntervalMillis
        by decide) rfl
  let log := texts.flatMap (fun line => line ++ [newline])
  let dir := withIteration 1 content (withEvents texts freshDir)
  have events : dir.events = some log := rfl
  have terminated : Terminated log := by
    have lines := LineLog.lines_texts (show Terminated [] from rfl)
      (fun line member => (evidenced.quiet line member).record (by decide))
    exact lines.1
  have isRecord : objectFraming.record text :=
    evidenced.success.record (by decide)
  have ready : Ready exampleSetting "c" (appendEvents (text ++ [newline]) dir)
      1 := (ready_completed_iff fresh evidenced).mpr ⟨rfl, by decide⟩
  refine ⟨dir, text, first, before, runs, shown,
    ready_cut events terminated isRecord ready, ?_⟩
  change ¬Terminated (log ++ piece text text.length)
  rw [LineLog.piece_torn le_rfl, List.take_length, Terminated,
    LineLog.split_append_line log text (objectFraming.record_line isRecord),
    show (LineLog.split log).2 = [] from terminated]
  exact objectFraming.record_ne_nil isRecord

/-- The last record of a log is cut in front of its newline. -/
theorem tornAppend_exact_cut : ∃ dir text result after,
    Ready exampleSetting "c" (appendEvents (piece text text.length) dir) 1 ∧
    executeNextSampledRecordedIteration exampleSetting "c" 10
        (World.start (appendEvents (piece text text.length) dir)
          (fun _ => faultlessAnswer)) = (.ok result, after) ∧
    ¬Terminated (dir.events.getD [] ++ piece text text.length) ∧
    ¬Ready exampleSetting "c" after.disk 2 := by
  obtain ⟨dir, text, _, _, _, _, ready, unterminated⟩ := exists_cut
  obtain ⟨result, after, runs, _⟩ := @executeNext_faultless exampleSetting "c"
    1 10 (World.start (appendEvents (piece text text.length) dir)
      (fun _ => faultlessAnswer)) ready
    (show minSampleIntervalMillis ≤ 10 ∧ 10 ≤ maxSampleIntervalMillis
      by decide) rfl
  have further := tornAppend_exact ready runs
  exact ⟨dir, text, result, after, ready, runs, unterminated,
    fun holds => unterminated (further.mp holds).1⟩

/-- One byte less than a whole campaign log: the campaign is ready, the next
invocation returns, and the campaign is blocked. -/
theorem cut_newline_blocks : ∃ dir text first before second after,
    executeNextSampledRecordedIteration exampleSetting "c" 10
        (World.start freshDir (fun _ => faultlessAnswer)) =
      (.ok first, before) ∧
    Shows (appendEvents (text ++ [newline]) dir) before ∧
    Ready exampleSetting "c" (appendEvents (piece text text.length) dir) 1 ∧
    executeNextSampledRecordedIteration exampleSetting "c" 10
        (World.start (appendEvents (piece text text.length) dir)
          (fun _ => faultlessAnswer)) = (.ok second, after) ∧
    ¬Ready exampleSetting "c" after.disk 2 := by
  obtain ⟨dir, text, first, before, runs, shown, ready, unterminated⟩ :=
    exists_cut
  let cut := World.start (appendEvents (piece text text.length) dir)
    (fun _ => faultlessAnswer)
  have again : Ready exampleSetting "c" cut.disk 1 := ready
  obtain ⟨second, after, runsAgain, ⟨_, _, _, more, other, last, next,
    shownAgain⟩, _⟩ := executeNext_faultless again
      (show minSampleIntervalMillis ≤ 10 ∧ 10 ≤ maxSampleIntervalMillis
        by decide) rfl
  refine ⟨dir, text, first, before, second, after, runs, shown, ready,
    runsAgain, ?_⟩
  rw [ready_shows shownAgain, ready_completed_iff again next]
  exact fun holds => unterminated holds.1

end Endurance
