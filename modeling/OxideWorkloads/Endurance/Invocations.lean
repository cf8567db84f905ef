/-
Run-next invocations one after the other, each of which may return, fail or be
killed anywhere: no sequence is executed twice and none is skipped.

A directory is ready, or it stays as it is.  An invocation on a ready directory
either leaves the log alone, or the directory is ready only with the next
sequence recorded.
-/

import Mathlib.Data.Finset.Card
import Mathlib.Order.Interval.Finset.Nat
import OxideWorkloads.Endurance.Frontier
import OxideWorkloads.Endurance.SamplingExact

namespace Endurance

open Foundation
open Foundation.CrashRun
open Foundation.LineLog (Bytes piece newline AllReadable readable Appended
  Framing)
open Foundation.JsonGrammar (objectFraming)

/-! ### Runs -/

/-- One call of the command, with all that its environment answers. -/
structure Invocation where
  intervalMillis : Nat
  supply : Nat → Answer

/-- The directory that an invocation leaves, however it ends. -/
def Invocation.leaves (setting : Setting) (campaignId : String)
    (invocation : Invocation) (disk : CampaignDir) : CampaignDir :=
  (executeNextSampledRecordedIteration setting campaignId
    invocation.intervalMillis (World.start disk invocation.supply)).2.disk

/-- The directory behind the first invocations. -/
def directory (setting : Setting) (campaignId : String)
    (invocations : Nat → Invocation) (opened : CampaignDir) :
    Nat → CampaignDir
  | 0 => opened
  | count + 1 =>
      (invocations count).leaves setting campaignId
        (directory setting campaignId invocations opened count)

def plannedPhase : String := "iteration-planned"

/-- The record of an event of this sequence and phase. -/
def Tells (sequence : Nat) (phase : String) (record : EventRecord) : Bool :=
  record.sequence = sequence ∧ record.phase = phase

/-- The events of one sequence and phase that the log shows. -/
def eventCount (setting : Setting) (campaignId : String)
    (disk : CampaignDir) (sequence : Nat) (phase : String) : Nat :=
  (readable (readEvent setting campaignId)
    (disk.events.getD [])).countP (Tells sequence phase)

def IterationFile (disk : CampaignDir) (sequence : Nat) : Prop :=
  (fileContent (iterationFileName sequence)
    (Folder.iterations.get disk)).isSome

/-- The sequence that an invocation takes up. -/
def Selects (setting : Setting) (campaignId : String) (disk : CampaignDir)
    (sequence : Nat) : Prop :=
  ∃ frontier, Ready setting campaignId disk frontier ∧
    sequence = frontier + 1

/-- An event of one sequence, of any phase. -/
def OwnEvent (campaignId : String) (sequence : Nat) (text : Bytes) : Prop :=
  ∃ phase, phase ≠ "" ∧ IsEvent campaignId sequence phase text

section Steps

variable (setting : Setting) (campaignId : String)

/-- The log shows more events of the sequence and phase than before. -/
def Adds (before after : CampaignDir) (sequence : Nat) (phase : String) :
    Prop :=
  eventCount setting campaignId before sequence phase <
    eventCount setting campaignId after sequence phase

/-- The invocation wrote for the sequence, if only a part of a line. -/
def Wrote (before after : CampaignDir) (sequence : Nat) : Prop :=
  Selects setting campaignId before sequence ∧
    after.events.getD [] ≠ before.events.getD []

/-- The invocation put the iteration file there, and the event that claims
it. -/
def Records (before after : CampaignDir) : Prop :=
  ∃ sequence, ¬IterationFile before sequence ∧ IterationFile after sequence ∧
    Adds setting campaignId before after sequence terminalSuccessPhase

/-- What an invocation can make of a directory. -/
inductive Stepped (before : CampaignDir) : CampaignDir → Prop where
  | refused (unready : ∀ frontier, ¬Ready setting campaignId before frontier) :
      Stepped before before
  | ran {frontier : Nat} {dir after : CampaignDir}
      (ready : Ready setting campaignId before frontier)
      (left : Left campaignId (frontier + 1) before dir)
      (shown : after = { dir with samples := after.samples }) :
      Stepped before after

end Steps

variable {setting : Setting} {campaignId : String} {frontier : Nat}
variable {before after dir : CampaignDir}

/-- What returned is one of the directories that a cut can leave, with the
last write complete. -/
theorem completed_left {sequence : Nat} {texts : List Bytes}
    {content text : Bytes}
    (evidenced : Evidenced campaignId sequence texts content text) :
    Left campaignId sequence before
      (completed sequence texts content text before) := by
  have whole :=
    @Left.recorded campaignId sequence before _ _ _ evidenced (text.length + 1)
  rwa [LineLog.piece_whole (Nat.lt_succ_self _)] at whole

/-- Every invocation makes one step, however it ends. -/
theorem Invocation.stepped (invocation : Invocation) (disk : CampaignDir) :
    Stepped setting campaignId disk
      (invocation.leaves setting campaignId disk) := by
  obtain ⟨status, reports⟩ := reconcile_total setting campaignId disk
  let start := World.start disk invocation.supply
  by_cases state : status.state = .ready
  · obtain ⟨frontier, ready⟩ := (state_ready_iff reports).mp state
    have starting : Ready setting campaignId start.disk frontier := ready
    have ends := @wp_executeNext_ready setting campaignId frontier
      invocation.intervalMillis False start starting False.elim False.elim
    unfold wp at ends
    unfold Invocation.leaves
    cases ending : executeNextSampledRecordedIteration setting campaignId
        invocation.intervalMillis start with
    | mk outcome after =>
        rw [ending] at ends
        cases outcome with
        | ok result =>
            obtain ⟨_, _, _, texts, content, text, evidenced, shown⟩ := ends.1
            exact .ran ready (completed_left evidenced) shown
        | error error =>
            obtain ⟨dir, left, shown⟩ := ends.2
            exact .ran ready left shown
        | killed =>
            obtain ⟨dir, left, shown⟩ := ends.2
            exact .ran ready left shown
  · have refuses : executeNextSampledRecordedIteration setting campaignId
        invocation.intervalMillis start =
          (.ok (refused campaignId status), start) :=
      executeNext_unready reports state
    unfold Invocation.leaves
    rw [refuses]
    exact .refused (fun frontier ready =>
      state ((state_ready_iff reports).mpr ⟨frontier, ready⟩))

/-! ### What a step adds -/

theorem fileContent_append {name : String} {entries : Entries}
    (present : (fileContent name entries).isSome) (more : Entries) :
    fileContent name (entries ++ more) = fileContent name entries := by
  unfold fileContent at present ⊢
  cases found : entries.find? (fun entry => entry.1 = .utf8 name) with
  | none =>
      rw [found] at present
      cases present
  | some entry =>
      rw [List.find?_append, found]
      rfl

theorem fileContent_last {name : String} {entries : Entries}
    (fresh : hasEntry name entries = false) (content : Bytes) :
    fileContent name (entries ++ [(.utf8 name, some content)]) =
      some content := by
  have absent : entries.find? (fun entry => entry.1 = .utf8 name) = none := by
    rw [List.find?_eq_none]
    exact List.any_eq_false.mp fresh
  unfold fileContent
  rw [List.find?_append, absent]
  simp

/-- An event that does not claim a success. -/
def UnclaimedEvent (campaignId : String) (sequence : Nat) (text : Bytes) :
    Prop :=
  ∃ phase, phase ≠ "" ∧ phase ≠ terminalSuccessPhase ∧
    IsEvent campaignId sequence phase text

theorem QuietEvent.unclaimed {sequence : Nat} {text : Bytes}
    (quiet : QuietEvent campaignId sequence text) :
    UnclaimedEvent campaignId sequence text := by
  obtain ⟨phase, named, notSuccess, _, isEvent⟩ := quiet
  exact ⟨phase, named, notSuccess, isEvent⟩

theorem UnclaimedEvent.own {sequence : Nat} {text : Bytes}
    (unclaimed : UnclaimedEvent campaignId sequence text) :
    OwnEvent campaignId sequence text := by
  obtain ⟨phase, named, _, isEvent⟩ := unclaimed
  exact ⟨phase, named, isEvent⟩

theorem appended_quiet {sequence : Nat} {texts : List Bytes} {log : Bytes}
    (bounded : sequence ≤ u64Max)
    (quiet : ∀ text ∈ texts, QuietEvent campaignId sequence text) :
    Appended objectFraming (UnclaimedEvent campaignId sequence) log
      (log ++ texts.flatMap (fun text => text ++ [newline])) :=
  Appended.texts (fun text member =>
    ⟨(quiet text member).record bounded, (quiet text member).unclaimed⟩)

/-- A step claims no success, or it claims one behind the iteration file. -/
theorem Left.log {sequence : Nat}
    (left : Left campaignId sequence before dir)
    (bounded : sequence ≤ u64Max)
    (fresh : hasEntry (iterationFileName sequence)
      (Folder.iterations.get before) = false) :
    ∃ log, Appended objectFraming (UnclaimedEvent campaignId sequence)
        (before.events.getD []) log ∧
      (dir.events.getD [] = log ∨ ∃ text landed,
        IsEvent campaignId sequence terminalSuccessPhase text ∧
          dir.events.getD [] = log ++ piece text landed ∧
          IterationFile dir sequence) := by
  cases left with
  | @failed torn text quiet entries failure landed =>
      obtain ⟨log, appended, rfl⟩ := quiet
      exact ⟨log ++ piece text landed,
        .write (appended.mono (fun _ => QuietEvent.unclaimed))
          (failure.record bounded)
          ⟨terminalFailurePhase, by decide, by decide, failure⟩ landed,
        .inl rfl⟩
  | @replaced texts _ _ _ evidenced replaced =>
      obtain ⟨entries, _, rfl⟩ := replaced
      exact ⟨_, appended_quiet bounded evidenced.quiet, .inl rfl⟩
  | @recorded texts content text evidenced landed =>
      refine ⟨_, appended_quiet bounded evidenced.quiet,
        .inr ⟨text, landed, evidenced.success, rfl, ?_⟩⟩
      have written := fileContent_last fresh content
      exact Option.isSome_iff_exists.mpr ⟨content, written⟩

theorem Left.appended {sequence : Nat}
    (left : Left campaignId sequence before dir)
    (bounded : sequence ≤ u64Max)
    (fresh : hasEntry (iterationFileName sequence)
      (Folder.iterations.get before) = false) :
    Appended objectFraming (OwnEvent campaignId sequence)
      (before.events.getD []) (dir.events.getD []) := by
  obtain ⟨log, appended, same | ⟨text, landed, success, same, _⟩⟩ :=
    left.log bounded fresh
  · rw [same]
    exact appended.mono (fun _ => UnclaimedEvent.own)
  · rw [same]
    exact .write (appended.mono (fun _ => UnclaimedEvent.own))
      (success.record bounded) ⟨_, by decide, success⟩ landed

/-- The iterations that were there stay in their place. -/
theorem Left.iterations {sequence : Nat}
    (left : Left campaignId sequence before dir) :
    ∃ more, Folder.iterations.get dir =
      Folder.iterations.get before ++ more := by
  cases left with
  | failed quiet entries failure landed =>
      obtain ⟨log, _, rfl⟩ := quiet
      exact ⟨[], (List.append_nil _).symm⟩
  | replaced evidenced replaced =>
      obtain ⟨entries, placed, rfl⟩ := replaced
      cases placed with
      | untouched => exact ⟨[], (List.append_nil _).symm⟩
      | temporary entry named => exact ⟨[entry], rfl⟩
      | replaced => exact ⟨_, rfl⟩
  | recorded evidenced landed => exact ⟨_, rfl⟩

theorem Left.file {sequence other : Nat}
    (left : Left campaignId sequence before dir)
    (present : IterationFile before other) : IterationFile dir other := by
  obtain ⟨more, same⟩ := left.iterations
  rw [IterationFile, same, fileContent_append present more]
  exact present

/-! ### What a log shows -/

section Counts

variable {sequence : Nat} {phase : String} {log last : Bytes}

theorem countP_appended {writes : Bytes → Prop} {kind : EventRecord → Bool}
    (excluded : ∀ text record, writes text →
      readEvent setting campaignId text = some record → kind record = false)
    (framed : objectFraming.Framed log)
    (appended : Appended objectFraming writes log last) :
    (readable (readEvent setting campaignId) last).countP kind ≤
      (readable (readEvent setting campaignId) log).countP kind := by
  rw [List.countP_eq_length_filter, List.countP_eq_length_filter]
  exact (Appended.readable_filter readEvent_finished excluded framed
    appended).length_le

theorem OwnEvent.read {text : Bytes}
    (own : OwnEvent campaignId sequence text) (positive : sequence ≠ 0)
    (bounded : sequence ≤ u64Max) :
    ∃ record, readEvent setting campaignId text = some record ∧
      record.sequence = sequence := by
  obtain ⟨phase, named, isEvent⟩ := own
  exact ⟨_, isEvent.read positive bounded named, rfl⟩

theorem UnclaimedEvent.read {text : Bytes}
    (unclaimed : UnclaimedEvent campaignId sequence text)
    (positive : sequence ≠ 0) (bounded : sequence ≤ u64Max) :
    ∃ record, readEvent setting campaignId text = some record ∧
      record.phase ≠ terminalSuccessPhase := by
  obtain ⟨phase, named, notSuccess, isEvent⟩ := unclaimed
  exact ⟨_, isEvent.read positive bounded named, notSuccess⟩

theorem Ready.framed (ready : Ready setting campaignId before frontier) :
    objectFraming.Framed (before.events.getD []) := by
  obtain ⟨log, _, _, content⟩ := ready_iff.mp ready
  rw [content.events]
  exact LineLog.framed_of_allReadable readEvent_finished content.allReadable

/-- Behind the frontier there are no events. -/
theorem Ready.beyond (ready : Ready setting campaignId before frontier)
    (beyond : frontier < sequence) (phase : String) :
    eventCount setting campaignId before sequence phase = 0 := by
  obtain ⟨log, _, _, content⟩ := ready_iff.mp ready
  rw [eventCount, content.events, List.countP_eq_zero]
  intro record member
  have range := content.finished.numbers record member
  simp only [Tells, decide_eq_true_eq]
  omega

theorem Ready.claimed (ready : Ready setting campaignId before frontier)
    (low : 1 ≤ sequence) (high : sequence ≤ frontier) :
    eventCount setting campaignId before sequence terminalSuccessPhase =
      1 := by
  obtain ⟨log, _, _, content⟩ := ready_iff.mp ready
  rw [eventCount, content.events]
  exact content.finished.success sequence low high

theorem Ready.fresh (ready : Ready setting campaignId before frontier) :
    hasEntry (iterationFileName (frontier + 1))
      (Folder.iterations.get before) = false := by
  obtain ⟨_, _, _, content⟩ := ready_iff.mp ready
  exact content.prepared.fresh

theorem Ready.room (ready : Ready setting campaignId before frontier) :
    frontier + 1 ≤ u64Max := by
  obtain ⟨_, _, _, content⟩ := ready_iff.mp ready
  exact content.room

/-- A step changes nothing of the other sequences in the log. -/
theorem Left.other (ready : Ready setting campaignId before frontier)
    (left : Left campaignId (frontier + 1) before dir)
    (other : sequence ≠ frontier + 1) (phase : String) :
    eventCount setting campaignId dir sequence phase ≤
      eventCount setting campaignId before sequence phase := by
  refine countP_appended (fun text record own reads => ?_) ready.framed
    (left.appended ready.room ready.fresh)
  have shows : ∃ record, readEvent setting campaignId text = some record ∧
      record.sequence = frontier + 1 :=
    own.read (Nat.succ_ne_zero frontier) ready.room
  obtain ⟨shown, same, number⟩ := shows
  rw [reads] at same
  cases same
  rw [Tells, decide_eq_false_iff_not, number]
  exact fun both => other both.1.symm

/-- At most one success of the next sequence is shown, and none without its
iteration file. -/
theorem Left.success (ready : Ready setting campaignId before frontier)
    (left : Left campaignId (frontier + 1) before dir) :
    eventCount setting campaignId dir (frontier + 1)
        terminalSuccessPhase ≤ 1 ∧
      (0 < eventCount setting campaignId dir (frontier + 1)
        terminalSuccessPhase → IterationFile dir (frontier + 1)) := by
  obtain ⟨log, appended, ends⟩ := left.log ready.room ready.fresh
  have none := ready.beyond (Nat.lt_succ_self frontier) terminalSuccessPhase
  have silent : (readable (readEvent setting campaignId) log).countP
      (Tells (frontier + 1) terminalSuccessPhase) ≤ 0 := by
    rw [← none]
    refine countP_appended (fun text record unclaimed reads => ?_)
      ready.framed appended
    have shows : ∃ record, readEvent setting campaignId text = some record ∧
        record.phase ≠ terminalSuccessPhase :=
      unclaimed.read (Nat.succ_ne_zero frontier) ready.room
    obtain ⟨shown, same, notSuccess⟩ := shows
    rw [reads] at same
    cases same
    rw [Tells, decide_eq_false_iff_not]
    exact fun both => notSuccess both.2
  rcases ends with same | ⟨text, landed, success, same, file⟩
  · rw [eventCount, same]
    exact ⟨by omega, fun shown => absurd shown (by omega)⟩
  · refine ⟨?_, fun _ => file⟩
    have isRecord := success.record ready.room
    have framed := appended.framed ready.framed
    have shown : (readable (readEvent setting campaignId)
        (log ++ piece text landed)).Sublist
          (readable (readEvent setting campaignId) log ++
            (readEvent setting campaignId text).toList) :=
      LineLog.readable_landing readEvent_finished
        (Framing.landing framed isRecord landed) isRecord
    have most : (readable (readEvent setting campaignId)
        (log ++ piece text landed)).countP
          (Tells (frontier + 1) terminalSuccessPhase) ≤ _ := shown.countP_le
    rw [List.countP_append] at most
    have single : ((readEvent setting campaignId text).toList).countP
        (Tells (frontier + 1) terminalSuccessPhase) ≤ 1 := by
      refine List.countP_le_length.trans ?_
      cases readEvent setting campaignId text <;> simp
    rw [eventCount, same]
    omega

end Counts

/-! ### One step -/

section Step

variable {sequence : Nat} {phase : String} {later : Nat}

/-- The log of a directory that is ready again is the one that was there, or
shows the next sequence. -/
theorem Left.ready (ready : Ready setting campaignId before frontier)
    (left : Left campaignId (frontier + 1) before dir)
    (again : Ready setting campaignId dir later) :
    later = frontier ∧ dir.events.getD [] = before.events.getD [] ∨
      later = frontier + 1 := by
  obtain ⟨log, _, _, content⟩ := ready_iff.mp ready
  obtain ⟨last, _, _, found⟩ := ready_iff.mp again
  have appended := left.appended ready.room ready.fresh
  rw [content.events, found.events, Option.getD_some, Option.getD_some]
    at appended
  obtain ⟨added, lines, own, unchanged, _⟩ := Appended.lines_of_allReadable
    readEvent_finished
    (LineLog.framed_of_allReadable readEvent_finished content.allReadable)
    appended found.allReadable
  have shows : readable (readEvent setting campaignId) last =
      readable (readEvent setting campaignId) log ++
        added.filterMap (readEvent setting campaignId) := by
    rw [readable, lines, List.filterMap_append, ← readable]
  have earlier : frontier ≤ later := by
    by_contra shrunk
    have once := content.finished.success frontier (by omega) le_rfl
    obtain ⟨record, member, holds⟩ :=
      List.countP_pos_iff.mp (Nat.lt_of_lt_of_eq Nat.one_pos once.symm)
    have range := found.finished.numbers record
      (by rw [shows]; exact List.mem_append_left _ member)
    simp only [decide_eq_true_eq] at holds
    omega
  have numbered : ∀ text ∈ added, ∃ record,
      readEvent setting campaignId text = some record ∧
        record.sequence = frontier + 1 :=
    fun text member =>
      (own text member).2.read (Nat.succ_ne_zero frontier) ready.room
  cases added with
  | nil =>
      have same := unchanged rfl
      rw [same] at found
      refine Or.inl ⟨?_, by rw [content.events, found.events]⟩
      by_contra moved
      have once := found.finished.success later (by omega) le_rfl
      have none := ready.beyond (show frontier < later by omega)
        terminalSuccessPhase
      rw [eventCount, content.events] at none
      exact absurd (once.symm.trans none) (by decide)
  | cons text rest =>
      refine Or.inr ?_
      obtain ⟨record, reads, number⟩ := numbered text List.mem_cons_self
      have member : record ∈ readable (readEvent setting campaignId) last := by
        rw [shows]
        exact List.mem_append_right _
          (List.mem_filterMap.mpr ⟨text, List.mem_cons_self, reads⟩)
      have reached := (found.finished.numbers record member).2
      have once := found.finished.success later (by omega) le_rfl
      obtain ⟨final, inLast, holds⟩ :=
        List.countP_pos_iff.mp (Nat.lt_of_lt_of_eq Nat.one_pos once.symm)
      simp only [decide_eq_true_eq] at holds
      rw [shows] at inLast
      rcases List.mem_append.mp inLast with old | new
      · have range := content.finished.numbers final old
        omega
      · obtain ⟨line, inAdded, readsLine⟩ := List.mem_filterMap.mp new
        obtain ⟨other, same, numberLine⟩ := numbered line inAdded
        rw [readsLine] at same
        cases same
        omega

/-- What a directory of a ready campaign can become. -/
theorem Stepped.ran_of_ready
    (stepped : Stepped setting campaignId before after)
    (ready : Ready setting campaignId before frontier) :
    ∃ dir, Left campaignId (frontier + 1) before dir ∧
      after = { dir with samples := after.samples } := by
  cases stepped with
  | refused unready => exact absurd ready (unready frontier)
  | ran other left shown =>
      have same := other.unique ready
      subst same
      exact ⟨_, left, shown⟩

theorem Stepped.unready (stepped : Stepped setting campaignId before after)
    (unready : ∀ frontier, ¬Ready setting campaignId before frontier) :
    after = before := by
  cases stepped with
  | refused _ => rfl
  | ran ready _ _ => exact absurd ready (unready _)

/-- Only the sequence that was selected gets events. -/
theorem Stepped.adds (stepped : Stepped setting campaignId before after)
    (adds : Adds setting campaignId before after sequence phase) :
    Wrote setting campaignId before after sequence := by
  have changed : after.events.getD [] ≠ before.events.getD [] := by
    intro same
    rw [Adds, eventCount, eventCount, same] at adds
    exact lt_irrefl _ adds
  cases stepped with
  | refused _ => exact absurd rfl changed
  | @ran frontier dir _ ready left shown =>
      refine ⟨⟨frontier, ready, ?_⟩, changed⟩
      by_contra other
      have fewer := left.other ready other phase
      rw [shown] at adds
      exact absurd adds (Nat.not_lt.mpr fewer)

/-- A campaign that stays ready advances by the invocations that record their
sequence. -/
theorem Stepped.ready (stepped : Stepped setting campaignId before after)
    (ready : Ready setting campaignId before frontier)
    (again : Ready setting campaignId after later) :
    later = frontier ∧ after.events.getD [] = before.events.getD [] ∧
        ¬Records setting campaignId before after ∨
      later = frontier + 1 ∧ Records setting campaignId before after := by
  obtain ⟨dir, left, shown⟩ := stepped.ran_of_ready ready
  have ends : Ready setting campaignId dir later := by
    rw [shown] at again
    exact again
  rcases left.ready ready ends with ⟨same, unchanged⟩ | advanced
  · refine Or.inl ⟨same, ?_, ?_⟩
    · rw [shown]
      exact unchanged
    · intro records
      obtain ⟨sequence, _, _, adds⟩ := records
      have wrote := stepped.adds adds
      apply wrote.2
      rw [shown]
      exact unchanged
  · refine Or.inr ⟨advanced, frontier + 1, ?_, ?_, ?_⟩
    · intro present
      obtain ⟨content, found⟩ := Option.isSome_iff_exists.mp present
      have absent := ready.fresh
      rw [hasEntry_of_fileContent found] at absent
      cases absent
    · rw [shown]
      refine (left.success ready).2 ?_
      rw [ends.claimed (Nat.succ_pos frontier) (by omega)]
      exact Nat.one_pos
    · rw [Adds, ready.beyond (Nat.lt_succ_self frontier), shown]
      have claimed := ends.claimed (Nat.succ_pos frontier)
        (show frontier + 1 ≤ later by omega)
      exact claimed.symm ▸ Nat.one_pos

/-- A success is shown at most once, and only with its iteration file. -/
structure Claimed (setting : Setting) (campaignId : String)
    (disk : CampaignDir) : Prop where
  single : ∀ sequence,
    eventCount setting campaignId disk sequence terminalSuccessPhase ≤ 1
  file : ∀ sequence,
    0 < eventCount setting campaignId disk sequence terminalSuccessPhase →
      IterationFile disk sequence

theorem Claimed.step (claimed : Claimed setting campaignId before)
    (stepped : Stepped setting campaignId before after) :
    Claimed setting campaignId after := by
  cases stepped with
  | refused _ => exact claimed
  | @ran frontier dir _ ready left shown =>
      have others := fun sequence other =>
        @Left.other setting campaignId frontier before dir sequence ready left
          other terminalSuccessPhase
      rw [shown]
      constructor
      · intro sequence
        by_cases own : sequence = frontier + 1
        · rw [own]
          exact (left.success ready).1
        · exact (others sequence own).trans (claimed.single sequence)
      · intro sequence present
        by_cases own : sequence = frontier + 1
        · rw [own] at present ⊢
          exact (left.success ready).2 present
        · exact left.file (claimed.file sequence
            (Nat.lt_of_lt_of_le present (others sequence own)))

end Step

/-! ### Whole runs -/

section Runs

variable {state : Nat → CampaignDir} {early late later sequence : Nat}

/-- What is not ready stays for good. -/
theorem run_unready
    (steps : ∀ count, Stepped setting campaignId (state count)
      (state (count + 1)))
    (unready : ∀ frontier, ¬Ready setting campaignId (state early) frontier)
    (ordered : early ≤ late) : state late = state early := by
  induction late, ordered using Nat.le_induction with
  | base => rfl
  | succ late _ ih =>
      have still := (steps late).unready (by rwa [ih])
      rw [still, ih]

theorem run_was_ready
    (steps : ∀ count, Stepped setting campaignId (state count)
      (state (count + 1)))
    (ready : Ready setting campaignId (state late) later)
    (ordered : early ≤ late) :
    ∃ frontier, Ready setting campaignId (state early) frontier := by
  by_contra unready
  rw [not_exists] at unready
  rw [run_unready steps unready ordered] at ready
  exact unready later ready

open Classical in
/-- The frontier counts the invocations that recorded their sequence. -/
theorem run_advances
    (steps : ∀ count, Stepped setting campaignId (state count)
      (state (count + 1)))
    (ready : Ready setting campaignId (state early) frontier)
    (ordered : early ≤ late)
    (again : Ready setting campaignId (state late) later) :
    later = frontier + ((Finset.Ico early late).filter (fun count =>
      Records setting campaignId (state count) (state (count + 1)))).card := by
  induction late, ordered using Nat.le_induction generalizing later with
  | base =>
      rw [Finset.Ico_self, Finset.filter_empty, Finset.card_empty]
      exact again.unique ready
  | succ late ordered ih =>
      obtain ⟨middle, between⟩ :=
        run_was_ready steps again (Nat.le_succ late)
      have before := ih between
      rw [← Nat.succ_eq_add_one, Nat.Ico_succ_right_eq_insert_Ico ordered,
        Finset.filter_insert]
      rcases (steps late).ready between again with
        ⟨same, _, silent⟩ | ⟨advanced, records⟩
      · rw [if_neg silent, same]
        exact before
      · rw [if_pos records, Finset.card_insert_of_notMem (by simp), advanced,
          before, Nat.add_assoc]

/-- A sequence that an invocation wrote for is not selected again. -/
theorem run_selects
    (steps : ∀ count, Stepped setting campaignId (state count)
      (state (count + 1)))
    (wrote : Wrote setting campaignId (state early) (state (early + 1))
      sequence) (ordered : early < late) :
    ¬Selects setting campaignId (state late) sequence := by
  intro selected
  obtain ⟨⟨frontier, ready, rfl⟩, changed⟩ := wrote
  obtain ⟨other, again, same⟩ := selected
  obtain ⟨next, between⟩ := run_was_ready steps again ordered
  have moved := run_advances steps between ordered again
  rcases (steps early).ready ready between with
    ⟨_, unchanged, _⟩ | ⟨advanced, _⟩
  · exact changed unchanged
  · omega

theorem run_written
    (steps : ∀ count, Stepped setting campaignId (state count)
      (state (count + 1))) {first second : Nat}
    (one : Wrote setting campaignId (state first) (state (first + 1))
      sequence)
    (other : Wrote setting campaignId (state second) (state (second + 1))
      sequence) : first = second := by
  rcases Nat.lt_trichotomy first second with before | same | behind
  · exact absurd other.1 (run_selects steps one before)
  · exact same
  · exact absurd one.1 (run_selects steps other behind)

theorem run_claimed
    (steps : ∀ count, Stepped setting campaignId (state count)
      (state (count + 1)))
    (claimed : Claimed setting campaignId (state 0)) (count : Nat) :
    Claimed setting campaignId (state count) := by
  induction count with
  | zero => exact claimed
  | succ count ih => exact ih.step (steps count)

end Runs

/-! ### Opened campaigns -/

/-- The log shows nothing yet. -/
def Unused (disk : CampaignDir) : Prop := disk.events.getD [] = []

open Classical in
/-- What holds in every run of invocations, however each of them ends. -/
structure RunsOnce (setting : Setting) (campaignId : String)
    (state : Nat → CampaignDir) : Prop where
  /-- The planned events of a sequence come from one invocation. -/
  planned : ∀ sequence first second,
    Adds setting campaignId (state first) (state (first + 1)) sequence
      plannedPhase →
    Adds setting campaignId (state second) (state (second + 1)) sequence
      plannedPhase → first = second
  /-- No two invocations write for one sequence, not even a part of a line. -/
  written : ∀ sequence first second,
    Wrote setting campaignId (state first) (state (first + 1)) sequence →
    Wrote setting campaignId (state second) (state (second + 1)) sequence →
      first = second
  /-- An invocation writes for no sequence but the one it selected. -/
  own : ∀ count,
    (state (count + 1)).events.getD [] = (state count).events.getD [] ∨
      ∃ sequence, Selects setting campaignId (state count) sequence ∧
        Appended objectFraming (OwnEvent campaignId sequence)
          ((state count).events.getD []) ((state (count + 1)).events.getD [])
  claimed : ∀ count sequence,
    0 < eventCount setting campaignId (state count) sequence
      terminalSuccessPhase → IterationFile (state count) sequence
  single : ∀ count sequence,
    eventCount setting campaignId (state count) sequence
      terminalSuccessPhase ≤ 1
  advances : ∀ early late frontier later, early ≤ late →
    Ready setting campaignId (state early) frontier →
    Ready setting campaignId (state late) later →
      later = frontier + ((Finset.Ico early late).filter (fun count =>
        Records setting campaignId (state count) (state (count + 1)))).card
  /-- A campaign that is not ready stays as it is. -/
  stays : ∀ early late status, early ≤ late →
    reconcileResumeStatus setting campaignId (state early) = .ok status →
    status.state ≠ .ready → state late = state early

/-- In every run of an opened campaign no sequence is executed twice, and a
sequence that did not finish is not skipped. -/
theorem run_once {opened : CampaignDir} (unused : Unused opened)
    (invocations : Nat → Invocation) :
    RunsOnce setting campaignId
      (directory setting campaignId invocations opened) := by
  have steps : ∀ count, Stepped setting campaignId
      (directory setting campaignId invocations opened count)
      (directory setting campaignId invocations opened (count + 1)) :=
    fun count => (invocations count).stepped _
  have nothing : ∀ sequence phase,
      eventCount setting campaignId opened sequence phase = 0 := by
    intro sequence phase
    rw [eventCount, show opened.events.getD [] = [] from unused]
    rfl
  have starts : Claimed setting campaignId opened :=
    ⟨fun sequence => by rw [nothing]; exact Nat.zero_le 1,
      fun sequence present => by rw [nothing] at present; cases present⟩
  have claimed := run_claimed steps starts
  exact
    { planned := fun sequence first second one other =>
        run_written steps ((steps first).adds one) ((steps second).adds other)
      written := fun sequence first second => run_written steps
      own := by
        intro count
        by_cases ready : ∃ frontier, Ready setting campaignId
            (directory setting campaignId invocations opened count) frontier
        · obtain ⟨frontier, ready⟩ := ready
          obtain ⟨dir, left, shown⟩ := (steps count).ran_of_ready ready
          refine Or.inr ⟨frontier + 1, ⟨frontier, ready, rfl⟩, ?_⟩
          rw [shown]
          exact left.appended ready.room ready.fresh
        · rw [not_exists] at ready
          rw [(steps count).unready ready]
          exact Or.inl rfl
      claimed := fun count => (claimed count).file
      single := fun count => (claimed count).single
      advances := fun _ _ _ _ ordered ready again =>
        run_advances steps ready ordered again
      stays := by
        intro early late status ordered reports notReady
        refine run_unready steps (fun frontier ready => notReady ?_) ordered
        exact (state_ready_iff reports).mpr ⟨frontier, ready⟩ }

theorem run_once_fresh : RunsOnce exampleSetting "c"
    (directory exampleSetting "c"
      (fun _ => { intervalMillis := 10, supply := fun _ => faultlessAnswer })
      freshDir) :=
  run_once (show Unused freshDir from rfl) _

end Endurance
