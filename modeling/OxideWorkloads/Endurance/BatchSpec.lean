/-
Batches against the durable frontier: what one turn does, and what a whole
batch returns, whatever the guard says and the iterations do.
-/

import OxideWorkloads.Endurance.Batch
import OxideWorkloads.Endurance.TornAppend

namespace Endurance

open Foundation
open Foundation.CrashRun
open Foundation.Checks
open Foundation.LineLog (Terminated newline piece)

variable {setting : Setting} {campaignId : String} {frontier : Nat}
variable {intervalMillis : Nat} {guards : Nat → GuardRun} {world : World}

/-! ### One turn -/

theorem readDisk_run (world : World) :
    readDisk world = (.ok world.disk, world) :=
  rfl

/-- A turn begins with the status of the durable evidence. -/
theorem turn_reconciled {α : Type} {status : ResumeStatus}
    (reports : reconcileResumeStatus setting campaignId world.disk =
      .ok status) (next : ResumeStatus → Program α) :
    (do
      let disk ← readDisk
      let preExecution ← ofExcept
        (reconcileResumeStatus setting campaignId disk)
      next preExecution) world = next status world := by
  rw [bind_ok (readDisk_run world), reports]
  rfl

theorem guardedLoop_unready {status : ResumeStatus} (remaining : Nat)
    (progress : GuardedProgress)
    (reports : reconcileResumeStatus setting campaignId world.disk =
      .ok status) (unready : status.state ≠ .ready) :
    guardedLoop setting campaignId intervalMillis guards (remaining + 1)
        progress world =
      (.ok { progress with
        startingFrontierSequence :=
          evaluated progress.startingFrontierSequence status
        terminalResumeStatus := some status
        stopReason := .resumeBlocked }, world) := by
  rw [guardedLoop, turn_reconciled reports]
  simp only
  rw [if_pos unready]
  rfl

theorem selectPlan_readyOf (campaignId : String) (frontier : Nat) :
    selectPlan (readyOf campaignId frontier) campaignId =
      .ok (frontier + 1, planOf campaignId (frontier + 1)) := by
  simp [selectPlan, readyOf, require, ensure, planOf, bind, Except.bind,
    pure, Except.pure]

/-- What is checked behind a selected execution always holds. -/
theorem executeSelected_returned {result : RunNextResult} {after : World}
    (ready : Ready setting campaignId world.disk frontier)
    (returned : executeSelectedSampledRecordedIteration setting campaignId
      (readyOf campaignId frontier) intervalMillis world =
        (.ok result, after)) :
    Returned campaignId frontier world.disk result after :=
  (wp_ends (@wp_executeSelected setting campaignId frontier intervalMillis
    False world ready False.elim False.elim) returned).1

theorem executeGuarded_ready {α : Type}
    (ready : Ready setting campaignId world.disk frontier)
    (next : Program α) :
    (executeGuarded setting campaignId intervalMillis
      (readyOf campaignId frontier) (frontier + 1) >>= fun _ => next) world =
      (executeSelectedSampledRecordedIteration setting campaignId
        (readyOf campaignId frontier) intervalMillis >>= fun _ => next)
        world := by
  rw [executeGuarded, bind_bind]
  refine bind_congr rfl (fun result after returned => ?_)
  obtain ⟨_, selected, executed, _⟩ :=
    executeSelected_returned ready returned
  have sameSelected : ∀ message : String,
      ensure (result.selectedSequence = some (frontier + 1)) message =
        .ok () := fun _ => ensure_eq_ok.mpr selected
  have sameExecuted : ∀ message : String,
      ensure (result.execution.isSome = true) message = .ok () :=
    fun _ => ensure_eq_ok.mpr executed
  rw [sameSelected, sameExecuted]
  rfl

theorem guardedLoop_ready (remaining : Nat) (progress : GuardedProgress)
    (ready : Ready setting campaignId world.disk frontier) :
    guardedLoop setting campaignId intervalMillis guards (remaining + 1)
        progress world =
      (if (guards progress.guardAttempts.length).allows = true then do
        let _ ← executeSelectedSampledRecordedIteration setting campaignId
          (readyOf campaignId frontier) intervalMillis
        guardedLoop setting campaignId intervalMillis guards remaining
          { progress with
            startingFrontierSequence :=
              some (progress.startingFrontierSequence.getD frontier)
            guardAttempts := progress.guardAttempts ++
              [runGuard (guards progress.guardAttempts.length)
                (frontier + 1)]
            completedSequences :=
              progress.completedSequences ++ [frontier + 1] }
      else
        pure { progress with
          startingFrontierSequence :=
            some (progress.startingFrontierSequence.getD frontier)
          guardAttempts := progress.guardAttempts ++
            [runGuard (guards progress.guardAttempts.length) (frontier + 1)]
          terminalResumeStatus := some (readyOf campaignId frontier)
          stopReason := .guardBlocked }) world := by
  rw [guardedLoop, turn_reconciled (ready_iff_reports.mp ready)]
  simp only [selectPlan_readyOf]
  rw [if_neg (not_not_intro (show (readyOf campaignId frontier).state =
    .ready from rfl)), bind_ok (show (ofExcept _ : Program _) world =
      (.ok (frontier + 1, planOf campaignId (frontier + 1)), world) from rfl)]
  simp only [ne_eq, runGuard_decision]
  by_cases allowed : (guards progress.guardAttempts.length).allows = true
  · rw [if_neg (not_not_intro allowed), if_pos allowed]
    exact executeGuarded_ready ready _
  · rw [if_pos allowed, if_neg allowed]
    rfl

theorem boundedLoop_unready {status : ResumeStatus} (remaining : Nat)
    (progress : BatchProgress)
    (reports : reconcileResumeStatus setting campaignId world.disk =
      .ok status) (unready : status.state ≠ .ready) :
    boundedLoop setting campaignId intervalMillis (remaining + 1) progress
        world =
      (.ok { progress with
        startingFrontierSequence :=
          evaluated progress.startingFrontierSequence status
        terminalResumeStatus := some status }, world) := by
  rw [boundedLoop, bind_ok (executeNext_unready reports unready)]
  have blocked : (refused campaignId status).preExecution.state ≠ .ready :=
    unready
  rw [if_pos blocked]
  rfl

theorem executeNext_selects
    (ready : Ready setting campaignId world.disk frontier) :
    executeNextSampledRecordedIteration setting campaignId intervalMillis
        world =
      executeSelectedSampledRecordedIteration setting campaignId
        (readyOf campaignId frontier) intervalMillis world := by
  rw [executeNextSampledRecordedIteration,
    turn_reconciled (ready_iff_reports.mp ready)]

theorem boundedLoop_ready (remaining : Nat) (progress : BatchProgress)
    (ready : Ready setting campaignId world.disk frontier) :
    boundedLoop setting campaignId intervalMillis (remaining + 1) progress
        world =
      (do
        let _ ← executeSelectedSampledRecordedIteration setting campaignId
          (readyOf campaignId frontier) intervalMillis
        boundedLoop setting campaignId intervalMillis remaining
          { progress with
            startingFrontierSequence :=
              some (progress.startingFrontierSequence.getD frontier)
            completedSequences :=
              progress.completedSequences ++ [frontier + 1] }) world := by
  rw [boundedLoop]
  refine bind_congr (executeNext_selects ready) (fun result after returned => ?_)
  obtain ⟨status, selected, executed, _⟩ :=
    executeSelected_returned ready returned
  have proceeds : ¬result.preExecution.state ≠ .ready :=
    not_not_intro (by rw [status]; rfl)
  have found : ∀ message : String,
      require result.selectedSequence message = .ok (frontier + 1) := by
    intro message
    rw [selected]
    rfl
  have sameExecuted : ∀ message : String,
      ensure (result.execution.isSome = true) message = .ok () :=
    fun _ => ensure_eq_ok.mpr executed
  simp only [evaluated]
  rw [if_neg proceeds, found, status]
  simp only [sameExecuted]
  rfl

/-! ### Effects -/

/-- How many guard runs allow their iteration before one does not. -/
def allowedFrom (guards : Nat → GuardRun) : Nat → Nat → Nat
  | _, 0 => 0
  | offset, limit + 1 =>
      if (guards offset).allows = true then
        allowedFrom guards (offset + 1) limit + 1
      else 0

/-- A guarded loop does what a plain one does in as many turns as the guard
allows, however it ends. -/
theorem guardedLoop_effects (remaining : Nat) (progress : GuardedProgress)
    (plain : BatchProgress) :
    (guardedLoop setting campaignId intervalMillis guards remaining progress
        world).2 =
      (boundedLoop setting campaignId intervalMillis
        (allowedFrom guards progress.guardAttempts.length remaining) plain
        world).2 := by
  induction remaining generalizing progress plain world with
  | zero => rfl
  | succ remaining ih =>
      obtain ⟨status, reports⟩ :=
        reconcile_total setting campaignId world.disk
      by_cases state : status.state = .ready
      · obtain ⟨frontier, ready⟩ := (state_ready_iff reports).mp state
        rw [guardedLoop_ready remaining progress ready, allowedFrom]
        by_cases allowed :
            (guards progress.guardAttempts.length).allows = true
        · rw [if_pos allowed, if_pos allowed, boundedLoop_ready _ plain ready]
          have count : progress.guardAttempts.length + 1 =
              (progress.guardAttempts ++ [runGuard
                (guards progress.guardAttempts.length)
                (frontier + 1)]).length := by simp
          rw [count]
          exact bind_effects (fun _ after _ => ih _ _)
        · rw [if_neg allowed, if_neg allowed]
          rfl
      · rw [guardedLoop_unready remaining progress reports state]
        cases allowedFrom guards progress.guardAttempts.length
            (remaining + 1) with
        | zero => rfl
        | succ count => rw [boundedLoop_unready count plain reports state]

/-- The variables that a plain loop has too. -/
def GuardedProgress.plain (progress : GuardedProgress) : BatchProgress :=
  { completedSequences := progress.completedSequences
    startingFrontierSequence := progress.startingFrontierSequence
    terminalResumeStatus := progress.terminalResumeStatus }

/-- With a guard that allows everything the two loops run in lockstep. -/
theorem guardedLoop_lockstep (remaining : Nat) (progress : GuardedProgress)
    (allowed : ∀ index < remaining,
      (guards (progress.guardAttempts.length + index)).allows = true) :
    (guardedLoop setting campaignId intervalMillis guards remaining progress
        >>= fun final => pure final.plain) world =
      boundedLoop setting campaignId intervalMillis remaining progress.plain
        world := by
  induction remaining generalizing progress world with
  | zero => rfl
  | succ remaining ih =>
      obtain ⟨status, reports⟩ :=
        reconcile_total setting campaignId world.disk
      by_cases state : status.state = .ready
      · obtain ⟨frontier, ready⟩ := (state_ready_iff reports).mp state
        have first : (guards progress.guardAttempts.length).allows = true :=
          allowed 0 (Nat.succ_pos remaining)
        have turn := @guardedLoop_ready setting campaignId frontier
          intervalMillis guards world remaining progress ready
        rw [if_pos first] at turn
        rw [bind_congr turn (fun _ _ _ => rfl), bind_bind,
          boundedLoop_ready remaining progress.plain ready]
        refine bind_congr rfl (fun _ after _ => ih _ (fun index inside => ?_))
        have later := allowed (index + 1) (Nat.succ_lt_succ inside)
        simpa [Nat.add_assoc, Nat.add_comm 1] using later
      · rw [bind_ok (guardedLoop_unready remaining progress reports state),
          boundedLoop_unready remaining progress.plain reports state]
        rfl

/-! ### Results -/

/-- The sequence and the decision of a guard run. -/
def GuardAttempt.entry (attempt : GuardAttempt) : Nat × GuardDecision :=
  (attempt.sequence, attempt.decision)

theorem runGuard_entry (run : GuardRun) (sequence : Nat) :
    (runGuard run sequence).entry =
      (sequence, if run.allows = true then .allow else .block) := by
  rw [GuardAttempt.entry, runGuard_sequence]
  split_ifs with allows
  · rw [(runGuard_decision run sequence).mpr allows]
  · cases decision : (runGuard run sequence).decision with
    | allow =>
        exact absurd ((runGuard_decision run sequence).mp decision) allows
    | block => rfl

/-- The guard runs of a batch that completes `count` sequences behind
`frontier`. -/
def guardEntries (frontier count : Nat) (stopReason : GuardedBatchStopReason) :
    List (Nat × GuardDecision) :=
  (List.range' (frontier + 1) count).map (fun sequence => (sequence, .allow)) ++
    (if stopReason = .guardBlocked then [(frontier + count + 1, .block)]
    else [])

/-- The loop followed the frontier for `count` turns. -/
structure Followed (setting : Setting) (campaignId : String)
    (frontier remaining count : Nat) (progress final : GuardedProgress)
    (after : World) : Prop where
  within : count ≤ remaining
  completed : final.completedSequences =
    progress.completedSequences ++ List.range' (frontier + 1) count
  attempts : final.guardAttempts.map GuardAttempt.entry =
    progress.guardAttempts.map GuardAttempt.entry ++
      guardEntries frontier count final.stopReason
  requested : count = remaining ↔
    final.stopReason = .requestedCountCompleted
  starting : 0 < remaining ∨ progress.startingFrontierSequence.isSome →
    final.startingFrontierSequence =
      some (progress.startingFrontierSequence.getD frontier)
  terminal : ∃ status, terminalStatus setting campaignId
      final.terminalResumeStatus after = (.ok status, after) ∧
    status.frontierSequence = frontier + count

/-- A loop that stops in its first turn. -/
theorem followed_blocked {remaining : Nat} (status : ResumeStatus)
    (progress : GuardedProgress) (attempts : List GuardAttempt)
    (stopReason : GuardedBatchStopReason)
    (stopped : stopReason ≠ .requestedCountCompleted)
    (entries : attempts.map GuardAttempt.entry =
      progress.guardAttempts.map GuardAttempt.entry ++
        guardEntries status.frontierSequence 0 stopReason) :
    Followed setting campaignId status.frontierSequence (remaining + 1) 0
      progress
      { completedSequences := progress.completedSequences
        guardAttempts := attempts
        startingFrontierSequence :=
          evaluated progress.startingFrontierSequence status
        terminalResumeStatus := some status
        stopReason := stopReason } world where
  within := Nat.zero_le _
  completed := by simp
  attempts := entries
  requested := iff_of_false (Nat.succ_ne_zero remaining).symm stopped
  starting := fun _ => rfl
  terminal := ⟨status, rfl, rfl⟩

theorem guardEntries_succ (frontier count : Nat)
    (stopReason : GuardedBatchStopReason) :
    guardEntries frontier (count + 1) stopReason =
      (frontier + 1, .allow) ::
        guardEntries (frontier + 1) count stopReason := by
  have next : frontier + (count + 1) + 1 = frontier + 1 + count + 1 := by
    omega
  rw [guardEntries, guardEntries, List.range'_succ, next]
  rfl

/-- A terminated log keeps ending with a newline. -/
theorem terminated_completed {disk : CampaignDir} {texts : List (List UInt8)}
    {content text : List UInt8}
    (ready : Ready setting campaignId disk frontier)
    (evidenced : Evidenced campaignId (frontier + 1) texts content text)
    (terminated : Terminated (disk.events.getD [])) :
    Terminated ((completed (frontier + 1) texts content text
      disk).events.getD []) := by
  obtain ⟨log, entries, done, content_⟩ := ready_iff.mp ready
  rw [content_.events] at terminated
  rw [completed_events _ _ _ _ content_.events]
  exact (LineLog.lines_texts terminated
    (evidenced.records content_.room)).1

theorem events_shows {dir : CampaignDir} (shown : Shows dir world) :
    world.disk.events = dir.events := by
  rw [shown]

/-- Behind a terminated log the loop follows the frontier. -/
theorem guardedLoop_follows {remaining : Nat}
    {progress final : GuardedProgress} {after : World}
    (reports : reconcileResumeStatus setting campaignId world.disk =
      .ok (statusAt campaignId frontier))
    (bounded : frontier ≤ u64Max)
    (terminated : Terminated (world.disk.events.getD []))
    (returned : guardedLoop setting campaignId intervalMillis guards remaining
      progress world = (.ok final, after))
    (undecided : progress.terminalResumeStatus = none ∧
      progress.stopReason = .requestedCountCompleted) :
    ∃ count, Followed setting campaignId frontier remaining count progress
      final after := by
  induction remaining generalizing frontier progress world with
  | zero =>
      obtain ⟨rfl, rfl⟩ := pure_returned.mp returned
      refine ⟨0, Nat.le_refl 0, by simp, ?_, iff_of_true rfl undecided.2,
        fun started => ?_, statusAt campaignId frontier, ?_, statusAt_frontier bounded⟩
      · rw [undecided.2]
        simp [guardEntries]
      · obtain ⟨known, present⟩ := Option.isSome_iff_exists.mp
          (started.resolve_left (Nat.lt_irrefl 0))
        rw [present]
        rfl
      · rw [undecided.1, terminalStatus, bind_ok (readDisk_run _), reports]
        rfl
  | succ remaining ih =>
      by_cases room : frontier + 1 ≤ u64Max
      · have ready : Ready setting campaignId world.disk frontier :=
          ready_iff_reports.mpr (by rw [reports, statusAt, if_pos room])
        rw [guardedLoop_ready remaining progress ready] at returned
        split_ifs at returned with allowed
        · obtain ⟨result, middle, executed, rest⟩ := bind_returned.mp returned
          obtain ⟨_, _, _, texts, content, text, evidenced, shown⟩ :=
            executeSelected_returned ready executed
          have next := reconcile_completed ready evidenced terminated
          rw [← reconcile_shows shown] at next
          have still := terminated_completed ready evidenced terminated
          rw [← events_shows shown] at still
          obtain ⟨count, followed⟩ := ih next room still rest undecided
          refine ⟨count + 1, ⟨Nat.succ_le_succ followed.within, ?_, ?_, ?_,
            fun _ => ?_, ?_⟩⟩
          · rw [followed.completed, List.range'_succ]
            simp
          · rw [followed.attempts, guardEntries_succ, List.map_append,
              List.map_cons, runGuard_entry, if_pos allowed]
            simp
          · rw [← followed.requested]
            omega
          · exact followed.starting (Or.inr rfl)
          · obtain ⟨status, ends, frontiers⟩ := followed.terminal
            exact ⟨status, ends, by omega⟩
        · obtain ⟨rfl, rfl⟩ := pure_returned.mp returned
          refine ⟨0, followed_blocked (readyOf campaignId frontier) progress _ _
            (by decide : GuardedBatchStopReason.guardBlocked ≠ _) ?_⟩
          rw [List.map_append, List.map_cons, runGuard_entry, if_neg allowed]
          simp [guardEntries, readyOf]
      · have full : statusAt campaignId frontier = exhausted campaignId :=
          if_neg room
        have last : frontier = u64Max := by omega
        subst last
        rw [full] at reports
        rw [guardedLoop_unready remaining progress reports (by
          simp [exhausted, inconsistent])] at returned
        cases returned
        refine ⟨0, followed_blocked (exhausted campaignId) progress _ _
          (by decide : GuardedBatchStopReason.resumeBlocked ≠ _) ?_⟩
        simp [guardEntries]

/-- Behind an unterminated log the first turn blocks the campaign at the
beginning. -/
theorem guardedLoop_torn {remaining : Nat} {progress final : GuardedProgress}
    {after : World} (ready : Ready setting campaignId world.disk frontier)
    (unterminated : ¬Terminated (world.disk.events.getD []))
    (allowed : (guards progress.guardAttempts.length).allows = true)
    (returned : guardedLoop setting campaignId intervalMillis guards
      (remaining + 1) progress world = (.ok final, after))
    (undecided : progress.terminalResumeStatus = none) :
    final.completedSequences =
        progress.completedSequences ++ [frontier + 1] ∧
      ∃ status, terminalStatus setting campaignId final.terminalResumeStatus
        after = (.ok status, after) ∧ status.frontierSequence = 0 := by
  rw [guardedLoop_ready remaining progress ready, if_pos allowed] at returned
  obtain ⟨result, middle, executed, rest⟩ := bind_returned.mp returned
  obtain ⟨_, _, _, texts, content, text, evidenced, shown⟩ :=
    executeSelected_returned ready executed
  obtain ⟨reason, reports⟩ :=
    reconcile_completed_torn ready evidenced unterminated
  rw [← reconcile_shows shown] at reports
  cases remaining with
  | zero =>
      obtain ⟨rfl, rfl⟩ := pure_returned.mp rest
      refine ⟨rfl, inconsistent campaignId 0 none reason, ?_, rfl⟩
      rw [undecided, terminalStatus, bind_ok (readDisk_run _), reports]
      rfl
  | succ remaining =>
      rw [guardedLoop_unready remaining _ reports (by
        simp [inconsistent])] at rest
      cases rest
      exact ⟨rfl, _, rfl, rfl⟩

/-! ### Batches -/

theorem terminalStatus_returned {found : Option ResumeStatus}
    {status : ResumeStatus} {after : World}
    (returned : terminalStatus setting campaignId found world =
      (.ok status, after)) : after = world := by
  cases found with
  | some known => exact (pure_returned.mp returned).2
  | none =>
      rw [terminalStatus, bind_ok (readDisk_run world)] at returned
      exact (ofExcept_returned.mp returned).2

theorem guardedBatch_returned {requested : Nat} {result : GuardedBatchResult}
    {after : World} :
    executeGuardedBoundedBatch setting campaignId intervalMillis guards
        requested world = (.ok result, after) ↔
      requested ≠ 0 ∧ ∃ progress starting terminal,
        guardedLoop setting campaignId intervalMillis guards requested .start
            world = (.ok progress, after) ∧
          progress.startingFrontierSequence = some starting ∧
          terminalStatus setting campaignId progress.terminalResumeStatus
            after = (.ok terminal, after) ∧
          progress.completedSequences.length ≤ u64Max ∧
          result =
            { schema := guardedBatchSchema
              schemaVersion := schemaVersion
              campaignId := campaignId
              requestedIterations := requested
              completedIterations := progress.completedSequences.length
              startingFrontierSequence := starting
              completedSequences := progress.completedSequences
              guardAttempts := progress.guardAttempts
              stopReason := progress.stopReason
              terminalResumeStatus := terminal } := by
  simp only [executeGuardedBoundedBatch, bind_returned, ofExcept_returned,
    ensure_eq_ok, require_eq_ok, pure_returned]
  constructor
  · rintro ⟨_, _, ⟨positive, rfl⟩, progress, middle, loops, starting, _,
      ⟨started, rfl⟩, terminal, last, ends, _, _, ⟨small, rfl⟩, rfl, rfl⟩
    have same := terminalStatus_returned ends
    subst same
    exact ⟨positive, progress, starting, terminal, loops, started, ends,
      small, rfl⟩
  · rintro ⟨positive, progress, starting, terminal, loops, started, ends,
      small, rfl⟩
    exact ⟨(), world, ⟨positive, rfl⟩, progress, after, loops, starting,
      after, ⟨started, rfl⟩, terminal, after, ends, (), after, ⟨small, rfl⟩,
      rfl, rfl⟩

theorem boundedBatch_returned {requested : Nat} {result : RunBatchResult}
    {after : World} :
    executeBoundedBatch setting campaignId intervalMillis requested world =
        (.ok result, after) ↔
      requested ≠ 0 ∧ ∃ progress starting terminal,
        boundedLoop setting campaignId intervalMillis requested .start world =
            (.ok progress, after) ∧
          progress.startingFrontierSequence = some starting ∧
          terminalStatus setting campaignId progress.terminalResumeStatus
            after = (.ok terminal, after) ∧
          progress.completedSequences.length ≤ u64Max ∧
          result =
            { schema := runBatchSchema
              schemaVersion := schemaVersion
              campaignId := campaignId
              requestedIterations := requested
              completedIterations := progress.completedSequences.length
              startingFrontierSequence := starting
              completedSequences := progress.completedSequences
              terminalResumeStatus := terminal } := by
  simp only [executeBoundedBatch, bind_returned, ofExcept_returned,
    ensure_eq_ok, require_eq_ok, pure_returned]
  constructor
  · rintro ⟨_, _, ⟨positive, rfl⟩, progress, middle, loops, starting, _,
      ⟨started, rfl⟩, terminal, last, ends, _, _, ⟨small, rfl⟩, rfl, rfl⟩
    have same := terminalStatus_returned ends
    subst same
    exact ⟨positive, progress, starting, terminal, loops, started, ends,
      small, rfl⟩
  · rintro ⟨positive, progress, starting, terminal, loops, started, ends,
      small, rfl⟩
    exact ⟨(), world, ⟨positive, rfl⟩, progress, after, loops, starting,
      after, ⟨started, rfl⟩, terminal, after, ends, (), after, ⟨small, rfl⟩,
      rfl, rfl⟩

theorem still_terminalStatus (found : Option ResumeStatus) :
    Still (terminalStatus setting campaignId found) := by
  cases found with
  | some status => exact still_pure status
  | none => exact still_bind (fun _ => rfl) (fun _ => still_ofExcept _)

theorem guardedBatch_loop (requested : Nat) :
    (executeGuardedBoundedBatch setting campaignId intervalMillis guards
        requested world).2 =
      (guardedLoop setting campaignId intervalMillis guards requested .start
        world).2 := by
  cases requested with
  | zero => rfl
  | succ requested =>
      have positive : ∀ message : String,
          ensure (requested + 1 ≠ 0) message = .ok () :=
        fun _ => ensure_eq_ok.mpr (Nat.succ_ne_zero requested)
      unfold executeGuardedBoundedBatch
      rw [positive]
      exact bind_still (fun _ => still_bind (still_ofExcept _) (fun _ =>
        still_bind (still_terminalStatus _) (fun _ =>
          still_bind (still_ofExcept _) (fun _ => still_pure _)))) world

theorem boundedBatch_loop (requested : Nat) :
    (executeBoundedBatch setting campaignId intervalMillis requested
        world).2 =
      (boundedLoop setting campaignId intervalMillis requested .start
        world).2 := by
  cases requested with
  | zero => rfl
  | succ requested =>
      have positive : ∀ message : String,
          ensure (requested + 1 ≠ 0) message = .ok () :=
        fun _ => ensure_eq_ok.mpr (Nat.succ_ne_zero requested)
      unfold executeBoundedBatch
      rw [positive]
      exact bind_still (fun _ => still_bind (still_ofExcept _) (fun _ =>
        still_bind (still_terminalStatus _) (fun _ =>
          still_bind (still_ofExcept _) (fun _ => still_pure _)))) world

/-- A guarded batch has the effects of a plain one of as many iterations as
the guard allows, however it ends. -/
theorem guardedBatch_effects (requested : Nat) :
    (executeGuardedBoundedBatch setting campaignId intervalMillis guards
        requested world).2 =
      (executeBoundedBatch setting campaignId intervalMillis
        (allowedFrom guards 0 requested) world).2 := by
  rw [guardedBatch_loop, boundedBatch_loop]
  exact guardedLoop_effects requested .start .start

/-- With a guard that allows everything the two batches return alike. -/
theorem guardedBatch_lockstep {requested : Nat} {result : GuardedBatchResult}
    {after : World}
    (allowed : ∀ index < requested, (guards index).allows = true)
    (returned : executeGuardedBoundedBatch setting campaignId intervalMillis
      guards requested world = (.ok result, after)) :
    ∃ plain, executeBoundedBatch setting campaignId intervalMillis requested
        world = (.ok plain, after) ∧
      plain.completedSequences = result.completedSequences ∧
      plain.startingFrontierSequence = result.startingFrontierSequence ∧
      plain.terminalResumeStatus = result.terminalResumeStatus := by
  obtain ⟨positive, progress, starting, terminal, loops, started, ends,
    small, rfl⟩ := guardedBatch_returned.mp returned
  have plainLoop : boundedLoop setting campaignId intervalMillis requested
      .start world = (.ok progress.plain, after) := by
    have lockstep := @guardedLoop_lockstep setting campaignId intervalMillis
      guards world requested .start (by simpa [GuardedProgress.start])
    rw [bind_ok loops] at lockstep
    exact lockstep.symm
  exact ⟨_, boundedBatch_returned.mpr ⟨positive, progress.plain, starting,
    terminal, plainLoop, started, ends, small, rfl⟩, rfl, rfl, rfl⟩

/-- The result follows the durable frontier for `count` iterations. -/
structure GuardedBatchResult.Follows (result : GuardedBatchResult)
    (requested frontier count : Nat) : Prop where
  starting : result.startingFrontierSequence = frontier
  completed :
    result.completedSequences = List.range' (frontier + 1) count
  completions : result.completedIterations = count
  within : count ≤ requested
  requested_iff :
    count = requested ↔ result.stopReason = .requestedCountCompleted
  attempts : result.guardAttempts.map GuardAttempt.entry =
    guardEntries frontier count result.stopReason
  terminal :
    result.terminalResumeStatus.frontierSequence = frontier + count

theorem Followed.result {requested count : Nat}
    {progress : GuardedProgress} {after : World}
    (followed : Followed setting campaignId frontier requested count .start
      progress after) (positive : requested ≠ 0)
    {starting : Nat} {terminal : ResumeStatus}
    (started : progress.startingFrontierSequence = some starting)
    (ends : terminalStatus setting campaignId progress.terminalResumeStatus
      after = (.ok terminal, after)) :
    GuardedBatchResult.Follows
      { schema := guardedBatchSchema
        schemaVersion := schemaVersion
        campaignId := campaignId
        requestedIterations := requested
        completedIterations := progress.completedSequences.length
        startingFrontierSequence := starting
        completedSequences := progress.completedSequences
        guardAttempts := progress.guardAttempts
        stopReason := progress.stopReason
        terminalResumeStatus := terminal } requested frontier count := by
  have completed := followed.completed
  rw [GuardedProgress.start, List.nil_append] at completed
  refine ⟨?_, completed, ?_, followed.within, followed.requested, ?_, ?_⟩
  · have same := followed.starting (Or.inl (Nat.pos_of_ne_zero positive))
    rw [started] at same
    injection same
  · rw [completed, List.length_range']
  · exact followed.attempts
  · obtain ⟨status, other, frontiers⟩ := followed.terminal
    rw [ends] at other
    injection other with same
    injection same with sameStatus
    rw [sameStatus]
    exact frontiers

/-- The frontier that the result follows is the one of the evidence. -/
def FollowsEvidence (setting : Setting) (campaignId : String)
    (disk : CampaignDir) (requested : Nat) (result : GuardedBatchResult) :
    Prop :=
  ∃ status count,
    reconcileResumeStatus setting campaignId disk = .ok status ∧
      result.Follows requested status.frontierSequence count

/-- A batch that stops in its first turn follows the frontier. -/
theorem guardedLoop_stopped {remaining : Nat} {status : ResumeStatus}
    {final : GuardedProgress} {after : World}
    (reports : reconcileResumeStatus setting campaignId world.disk =
      .ok status)
    (stops : status.state ≠ .ready ∨ (guards 0).allows ≠ true)
    (returned : guardedLoop setting campaignId intervalMillis guards
      (remaining + 1) .start world = (.ok final, after)) :
    Followed setting campaignId status.frontierSequence (remaining + 1) 0
      .start final after := by
  by_cases state : status.state = .ready
  · have blocked := stops.resolve_left (not_not_intro state)
    obtain ⟨frontier, ready⟩ := (state_ready_iff reports).mp state
    have same := reports.symm.trans (ready_iff_reports.mp ready)
    injection same with statuses
    subst statuses
    have first :
        ¬(guards GuardedProgress.start.guardAttempts.length).allows = true :=
      blocked
    rw [guardedLoop_ready remaining .start ready, if_neg first] at returned
    obtain ⟨rfl, rfl⟩ := pure_returned.mp returned
    refine followed_blocked (readyOf campaignId frontier) .start _ _
      (by decide : GuardedBatchStopReason.guardBlocked ≠ _) ?_
    have entry := runGuard_entry (guards 0) (frontier + 1)
    rw [if_neg blocked] at entry
    simpa [guardEntries, readyOf, GuardedProgress.start] using entry
  · rw [guardedLoop_unready remaining .start reports state] at returned
    cases returned
    refine followed_blocked status .start _ _
      (by decide : GuardedBatchStopReason.resumeBlocked ≠ _) ?_
    simp [guardEntries, GuardedProgress.start]

/-- A returned batch follows the durable frontier exactly if the log that its
first iteration continues ends with a newline. -/
theorem guardedBatch_follows {requested : Nat} {result : GuardedBatchResult}
    {after : World}
    (returned : executeGuardedBoundedBatch setting campaignId intervalMillis
      guards requested world = (.ok result, after)) :
    FollowsEvidence setting campaignId world.disk requested result ↔
      ∀ frontier, Ready setting campaignId world.disk frontier →
        (guards 0).allows = true →
          Terminated (world.disk.events.getD []) := by
  obtain ⟨positive, progress, starting, terminal, loops, started, ends,
    _, rfl⟩ := guardedBatch_returned.mp returned
  obtain ⟨remaining, rfl⟩ := Nat.exists_eq_succ_of_ne_zero positive
  obtain ⟨status, reports⟩ := reconcile_total setting campaignId world.disk
  constructor
  · rintro ⟨other, count, same, follows⟩ frontier ready allows
    by_contra unterminated
    rw [ready_iff_reports.mp ready] at same
    injection same with statuses
    subst statuses
    obtain ⟨completed, final, found, zero⟩ :=
      guardedLoop_torn ready unterminated allows loops rfl
    rw [ends] at found
    injection found with outcomes
    injection outcomes with finals
    have advanced := follows.terminal
    have frontiers := follows.completed
    simp only [finals, zero, readyOf] at advanced
    simp only [completed, GuardedProgress.start, readyOf] at frontiers
    have counts := congrArg List.length frontiers
    simp only [List.nil_append, List.length_singleton, List.length_range']
      at counts
    omega
  · intro terminated
    by_cases stops : status.state ≠ .ready ∨ (guards 0).allows ≠ true
    · exact ⟨status, 0, reports, (guardedLoop_stopped reports stops
        loops).result positive started ends⟩
    · rw [not_or, not_ne_iff, not_ne_iff] at stops
      obtain ⟨frontier, ready⟩ := (state_ready_iff reports).mp stops.1
      obtain ⟨_, _, _, content⟩ := ready_iff.mp ready
      have shows := ready_iff_reports.mp ready
      have current : reconcileResumeStatus setting campaignId world.disk =
          .ok (statusAt campaignId frontier) := by
        rw [shows, statusAt, if_pos content.room]
      obtain ⟨count, followed⟩ := guardedLoop_follows current
        (Nat.le_of_succ_le content.room) (terminated frontier ready stops.2)
        loops ⟨rfl, rfl⟩
      exact ⟨_, count, shows, followed.result positive started ends⟩

/-- The lists, the counts and the frontiers of every batch that returns, what
it does, and its agreement with a plain batch. -/
theorem guardedBatch_exact {requested : Nat} {result : GuardedBatchResult}
    {after : World}
    (returned : executeGuardedBoundedBatch setting campaignId intervalMillis
      guards requested world = (.ok result, after)) :
    (FollowsEvidence setting campaignId world.disk requested result ↔
        ∀ frontier, Ready setting campaignId world.disk frontier →
          (guards 0).allows = true →
            Terminated (world.disk.events.getD [])) ∧
      after = (executeBoundedBatch setting campaignId intervalMillis
        (allowedFrom guards 0 requested) world).2 ∧
      ((∀ index < requested, (guards index).allows = true) →
        ∃ plain, executeBoundedBatch setting campaignId intervalMillis
            requested world = (.ok plain, after) ∧
          plain.completedSequences = result.completedSequences ∧
          plain.startingFrontierSequence = result.startingFrontierSequence ∧
          plain.terminalResumeStatus = result.terminalResumeStatus) := by
  refine ⟨guardedBatch_follows returned, ?_,
    fun allowed => guardedBatch_lockstep allowed returned⟩
  have effects := @guardedBatch_effects setting campaignId intervalMillis
    guards world requested
  rw [returned] at effects
  exact effects

/-- A batch of one iteration returns whenever its iteration does. -/
theorem guardedBatch_one {result : RunNextResult} {after : World}
    (ready : Ready setting campaignId world.disk frontier)
    (allows : (guards 0).allows = true)
    (runs : executeNextSampledRecordedIteration setting campaignId
      intervalMillis world = (.ok result, after)) :
    ∃ batch, executeGuardedBoundedBatch setting campaignId intervalMillis
      guards 1 world = (.ok batch, after) := by
  obtain ⟨status, reports⟩ := reconcile_total setting campaignId after.disk
  rw [executeNext_selects ready] at runs
  have turn := @guardedLoop_ready setting campaignId frontier intervalMillis
    guards world 0 .start ready
  have first :
      (guards GuardedProgress.start.guardAttempts.length).allows = true :=
    allows
  rw [if_pos first, bind_ok runs] at turn
  refine ⟨_, guardedBatch_returned.mpr ⟨Nat.one_ne_zero, _, frontier, status,
    turn, rfl, ?_, (by decide : 1 ≤ u64Max), rfl⟩⟩
  rw [GuardedProgress.start, terminalStatus, bind_ok (readDisk_run after),
    reports]
  rfl

/-- A guard that always allows. -/
def allowing : Nat → GuardRun :=
  fun _ => .exited ⟨true, some 0, none, "exit status: 0"⟩

theorem guardedBatch_exact_fresh : ∃ result after,
    executeGuardedBoundedBatch exampleSetting "c" 10 allowing 1
        (World.start freshDir (fun _ => faultlessAnswer)) =
      (.ok result, after) ∧
    FollowsEvidence exampleSetting "c" freshDir 1 result := by
  let start := World.start freshDir (fun _ => faultlessAnswer)
  have fresh : Ready exampleSetting "c" start.disk 0 := freshDir_ready
  obtain ⟨_, after, runs, _⟩ := executeNext_faultless fresh
    (show minSampleIntervalMillis ≤ 10 ∧ 10 ≤ maxSampleIntervalMillis
      by decide) rfl
  obtain ⟨result, returned⟩ := @guardedBatch_one _ _ _ _ allowing _ _ _ fresh
    rfl runs
  exact ⟨result, after, returned, (guardedBatch_exact returned).1.mpr
    (fun _ _ _ => rfl)⟩

/-- Behind the cut of a newline the batch loses the frontier. -/
theorem guardedBatch_torn : ∃ dir result after,
    Ready exampleSetting "c" dir 1 ∧
    executeGuardedBoundedBatch exampleSetting "c" 10 allowing 1
        (World.start dir (fun _ => faultlessAnswer)) = (.ok result, after) ∧
    ¬FollowsEvidence exampleSetting "c" dir 1 result := by
  obtain ⟨dir, text, _, _, _, _, ready, unterminated⟩ := exists_cut
  let cut := World.start (appendEvents (piece text text.length) dir)
    (fun _ => faultlessAnswer)
  have again : Ready exampleSetting "c" cut.disk 1 := ready
  obtain ⟨_, after, runs, _⟩ := executeNext_faultless again
    (show minSampleIntervalMillis ≤ 10 ∧ 10 ≤ maxSampleIntervalMillis
      by decide) rfl
  obtain ⟨result, returned⟩ := @guardedBatch_one _ _ _ _ allowing _ _ _ again
    rfl runs
  refine ⟨_, result, after, ready, returned, fun follows => unterminated ?_⟩
  exact (guardedBatch_follows returned).mp follows 1 again rfl

end Endurance
