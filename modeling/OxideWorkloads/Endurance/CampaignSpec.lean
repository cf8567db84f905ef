/-
The acceptance controller against every clock and every sequence of guarded
steps: when it starts a step, what it executes, and why it stops.
-/

import OxideWorkloads.Endurance.BatchSpec
import OxideWorkloads.Endurance.Campaign

namespace Endurance

open Foundation
open Foundation.CrashRun
open Foundation.Checks

/-! ### Steps over the evidence -/

/-- The step is what a guarded batch of one iteration returned, in some world
and under some guard. -/
def Produced (setting : Setting) (step : GuardedBatchResult) : Prop :=
  ∃ campaignId intervalMillis guards world after,
    executeGuardedBoundedBatch setting campaignId intervalMillis guards 1
      world = (.ok step, after)

/-- A step that was blocked executed nothing and stays at its frontier. -/
theorem Produced.blocked {setting : Setting} {step : GuardedBatchResult}
    (produced : Produced setting step)
    (stopped : step.stopReason ≠ .requestedCountCompleted) :
    step.completedSequences = [] ∧
      step.terminalResumeStatus.frontierSequence =
        step.startingFrontierSequence := by
  obtain ⟨campaignId, intervalMillis, guards, world, after, returned⟩ :=
    produced
  obtain ⟨positive, progress, starting, terminal, loops, started, ends, _,
    rfl⟩ := guardedBatch_returned.mp returned
  obtain ⟨status, reports⟩ := reconcile_total setting campaignId world.disk
  by_cases stops : status.state ≠ .ready ∨ (guards 0).allows ≠ true
  · have follows := (guardedLoop_stopped reports stops loops).result positive
      started ends
    constructor
    · simpa using follows.completed
    · rw [follows.terminal, follows.starting, Nat.add_zero]
  · rw [not_or, not_ne_iff, not_ne_iff] at stops
    obtain ⟨frontier, ready⟩ := (state_ready_iff reports).mp stops.1
    have first : (guards GuardedProgress.start.guardAttempts.length).allows =
        true := stops.2
    rw [guardedLoop_ready 0 .start ready, if_pos first] at loops
    obtain ⟨_, middle, _, rest⟩ := bind_returned.mp loops
    obtain ⟨rfl, _⟩ := pure_returned.mp rest
    exact absurd rfl stopped

/-- A step that the status blocked found the campaign unready. -/
theorem Produced.unready {setting : Setting} {step : GuardedBatchResult}
    (produced : Produced setting step)
    (blocked : step.stopReason = .resumeBlocked) :
    step.terminalResumeStatus.state ≠ .ready := by
  obtain ⟨campaignId, intervalMillis, guards, world, after, returned⟩ :=
    produced
  obtain ⟨positive, progress, starting, terminal, loops, started, ends, _,
    rfl⟩ := guardedBatch_returned.mp returned
  obtain ⟨status, reports⟩ := reconcile_total setting campaignId world.disk
  by_cases state : status.state = .ready
  · obtain ⟨frontier, ready⟩ := (state_ready_iff reports).mp state
    rw [guardedLoop_ready 0 .start ready] at loops
    split_ifs at loops with allows
    · obtain ⟨_, middle, _, rest⟩ := bind_returned.mp loops
      obtain ⟨rfl, _⟩ := pure_returned.mp rest
      cases blocked
    · obtain ⟨rfl, _⟩ := pure_returned.mp loops
      cases blocked
  · rw [guardedLoop_unready 0 .start reports state] at loops
    cases loops
    obtain ⟨rfl, _⟩ := pure_returned.mp ends
    exact state

/-! ### What the controller must do -/

section Controller

variable (campaignId : String) (startedAt : Nat) (initial : ResumeStatus)
variable (policy : CampaignAcceptancePolicy)
variable (clock : Nat → Outcome String Nat)
variable (steps : Nat → Outcome String GuardedBatchResult)

/-- The step is one of the campaign, it starts where the controller stands,
and if it reports its iteration as completed it advances by exactly one. -/
structure Conforms (expected : Nat) (step : GuardedBatchResult) : Prop where
  campaign : step.campaignId = campaignId
  starting : step.startingFrontierSequence = expected
  advance : step.stopReason = .requestedCountCompleted →
    step.completedIterations = 1 ∧
      step.completedSequences = [expected + 1] ∧
      step.terminalResumeStatus.frontierSequence = expected + 1

/-- Both acceptance floors. -/
def FloorsHold (elapsed frontier : Nat) : Prop :=
  policy.minimumElapsed ≤ elapsed ∧
    policy.minimumCompletedIterations ≤ frontier

/-- The status in front of a step: the one at the beginning, or the one that
the step before reported. -/
def statusBefore : Nat → Option ResumeStatus
  | 0 => some initial
  | index + 1 =>
      (steps index).toOption.map GuardedBatchResult.terminalResumeStatus

/-- The campaign was ready and a floor was missing when the step came. -/
def MayStart (index : Nat) : Prop :=
  ∃ status observedAt,
    statusBefore initial steps index = some status ∧
      status.state = .ready ∧
      clock index = .ok observedAt ∧
      startedAt ≤ observedAt ∧
      ¬FloorsHold policy (observedAt - startedAt) status.frontierSequence

/-- The sequences that a step executed. -/
def executedBy (index : Nat) : List Nat :=
  ((steps index).toOption.map GuardedBatchResult.completedSequences).getD []

/-- The sequences that the first steps executed, in their order. -/
def executed (started : Nat) : List Nat :=
  (List.range started).flatMap (executedBy steps)

/-- The result tells what happened in so many calls of the clock and of the
step. -/
structure Accounts (result : CampaignRunResult) (calls : Nat × Nat) :
    Prop where
  floors : result.stopReason = .acceptanceFloorsSatisfied →
    result.terminalResumeStatus.state = .ready ∧
      FloorsHold policy result.elapsedNanos result.finalFrontierSequence
  resumeBlocked : result.stopReason = .resumeBlocked →
    result.terminalResumeStatus.state ≠ .ready
  guardBlocked : result.stopReason = .guardBlocked →
    ∃ last step, calls.2 = last + 1 ∧ steps last = .ok step ∧
      step.stopReason = .guardBlocked
  clocked : ∃ last, calls.1 = last + 1 ∧
    clock last = .ok result.observedAtUnixNanosUtc ∧
      startedAt ≤ result.observedAtUnixNanosUtc ∧
      result.elapsedNanos = result.observedAtUnixNanosUtc - startedAt
  starting : result.initialFrontierSequence = initial.frontierSequence
  advanced : result.finalFrontierSequence =
    initial.frontierSequence + result.iterationsCompletedByInvocation
  sequences : executed steps calls.2 =
    List.range' (initial.frontierSequence + 1)
      result.iterationsCompletedByInvocation
  counted : ((List.range calls.2).filter
      (fun index => (executedBy steps index).isEmpty = false)).length =
    result.iterationsCompletedByInvocation
  terminal : result.finalFrontierSequence =
    result.terminalResumeStatus.frontierSequence

end Controller

/-! ### Executed sequences -/

section Executed

variable {steps : Nat → Outcome String GuardedBatchResult}
variable {frontier count started : Nat}

theorem executed_succ (started : Nat) :
    executed steps (started + 1) =
      executed steps started ++ executedBy steps started := by
  simp [executed, List.range_succ]

theorem executed_advances
    (each : ∀ index < count, executedBy steps index = [frontier + index + 1]) :
    executed steps count = List.range' (frontier + 1) count := by
  induction count with
  | zero => rfl
  | succ count ih =>
      have earlier := ih (fun index inside =>
        each index (Nat.lt_succ_of_lt inside))
      rw [executed_succ, earlier, each count (Nat.lt_succ_self count),
        List.range'_concat, Nat.one_mul, Nat.add_right_comm]

theorem counted_advances
    (each : ∀ index < count, executedBy steps index = [frontier + index + 1]) :
    ((List.range count).filter
      (fun index => (executedBy steps index).isEmpty = false)).length =
        count := by
  rw [List.filter_eq_self.mpr, List.length_range]
  intro index member
  rw [each index (List.mem_range.mp member)]
  rfl

end Executed

/-! ### One turn -/

section Turn

variable {setting : Setting} {campaignId : String} {startedAt : Nat}
variable {initial : ResumeStatus} {policy : CampaignAcceptancePolicy}
variable {clock : Nat → Outcome String Nat}
variable {steps : Nat → Outcome String GuardedBatchResult}
variable {index : Nat} {current : ResumeStatus}

variable (campaignId startedAt initial policy clock steps) in
/-- The loop stands in front of a turn: every step so far was allowed and
advanced by one. -/
structure Led (index : Nat) (current : ResumeStatus) : Prop where
  status : statusBefore initial steps index = some current
  frontier : current.frontierSequence = initial.frontierSequence + index
  started : ∀ earlier < index,
    MayStart startedAt initial policy clock steps earlier
  conforms : ∀ earlier < index, ∀ step, steps earlier = .ok step →
    Conforms campaignId (initial.frontierSequence + earlier) step
  advanced : ∀ earlier < index, executedBy steps earlier =
    [initial.frontierSequence + earlier + 1]

theorem Led.begin :
    Led campaignId startedAt initial policy clock steps 0 initial where
  status := rfl
  frontier := rfl
  started := fun _ none => absurd none (Nat.not_lt_zero _)
  conforms := fun _ none => absurd none (Nat.not_lt_zero _)
  advanced := fun _ none => absurd none (Nat.not_lt_zero _)

theorem checkedElapsedNanos_eq_ok {observedAt elapsed : Nat} :
    checkedElapsedNanos startedAt observedAt = .ok elapsed ↔
      startedAt ≤ observedAt ∧ observedAt - startedAt = elapsed := by
  simp only [checkedElapsedNanos, bind_eq_ok, ensure_eq_ok, pure_eq_ok,
    exists_and_left, exists_const]

theorem policyMinimumElapsedNanos_eq_ok {minimum : Nat} :
    policyMinimumElapsedNanos policy = .ok minimum ↔
      policy.minimumElapsed ≤ u64Max ∧ policy.minimumElapsed = minimum := by
  simp only [policyMinimumElapsedNanos, bind_eq_ok, ensure_eq_ok, pure_eq_ok,
    exists_and_left, exists_const]

theorem finishResult_eq_ok {observedAt initialFrontier : Nat}
    {reason : CampaignStopReason} {terminal : ResumeStatus}
    {result : CampaignRunResult} :
    finishResult campaignId startedAt observedAt policy initialFrontier reason
        terminal = .ok result ↔
      startedAt ≤ observedAt ∧
        initialFrontier ≤ terminal.frontierSequence ∧
        policy.minimumElapsed ≤ u64Max ∧
        result =
          { schema := runCampaignSchema
            schemaVersion := schemaVersion
            campaignId := campaignId
            campaignStartedAtUnixNanosUtc := startedAt
            observedAtUnixNanosUtc := observedAt
            elapsedNanos := observedAt - startedAt
            minimumElapsedNanos := policy.minimumElapsed
            minimumCompletedIterations := policy.minimumCompletedIterations
            initialFrontierSequence := initialFrontier
            finalFrontierSequence := terminal.frontierSequence
            initialCompletedIterations := initialFrontier
            finalCompletedIterations := terminal.frontierSequence
            iterationsCompletedByInvocation :=
              terminal.frontierSequence - initialFrontier
            stopReason := reason
            terminalResumeStatus := terminal } := by
  simp only [finishResult, bind_eq_ok, checkedElapsedNanos_eq_ok,
    policyMinimumElapsedNanos_eq_ok, ensure_eq_ok, pure_eq_ok]
  constructor
  · rintro ⟨_, ⟨notBefore, rfl⟩, _, forwards, _, ⟨small, rfl⟩, rfl⟩
    exact ⟨notBefore, forwards, small, rfl⟩
  · rintro ⟨notBefore, forwards, small, rfl⟩
    exact ⟨_, ⟨notBefore, rfl⟩, (), forwards, _, ⟨small, rfl⟩, rfl⟩

theorem checkStep_eq_ok {step : GuardedBatchResult} :
    checkStep campaignId current step = .ok () ↔
      step.campaignId = campaignId ∧
        step.startingFrontierSequence = current.frontierSequence := by
  simp [checkStep]

theorem advancedStatus_eq_ok {step : GuardedBatchResult}
    {next : ResumeStatus} :
    advancedStatus current step = .ok next ↔
      current.frontierSequence + 1 ≤ u64Max ∧
        step.completedIterations = 1 ∧
        step.completedSequences = [current.frontierSequence + 1] ∧
        step.terminalResumeStatus.frontierSequence =
          current.frontierSequence + 1 ∧
        next = step.terminalResumeStatus := by
  simp only [advancedStatus, bind_eq_ok, ensure_eq_ok, pure_eq_ok]
  constructor
  · rintro ⟨_, ⟨one, single⟩, _, room, _, first, _, forwards, rfl⟩
    obtain ⟨completed, only⟩ := List.length_eq_one_iff.mp single
    rw [only] at first ⊢
    injection first with same
    exact ⟨room, one, by rw [same], forwards, rfl⟩
  · rintro ⟨room, one, only, forwards, rfl⟩
    rw [only]
    exact ⟨(), ⟨one, rfl⟩, (), room, (), rfl, (), forwards, rfl⟩

/-- The account of a result at a frontier that the last step left alone. -/
theorem Led.accounts
    (led : Led campaignId startedAt initial policy clock steps index current)
    {calls : Nat × Nat} {last observedAt : Nat} {reason : CampaignStopReason}
    {terminal : ResumeStatus} {result : CampaignRunResult}
    (idle : calls.2 = index ∨
      calls.2 = index + 1 ∧ executedBy steps index = [])
    (called : calls.1 = last + 1) (reads : clock last = .ok observedAt)
    (stays : terminal.frontierSequence = current.frontierSequence)
    (finishes : finishResult campaignId startedAt observedAt policy
      initial.frontierSequence reason terminal = .ok result)
    (floors : reason = .acceptanceFloorsSatisfied →
      terminal.state = .ready ∧
        FloorsHold policy (observedAt - startedAt) terminal.frontierSequence)
    (unready : reason = .resumeBlocked → terminal.state ≠ .ready)
    (guarded : reason = .guardBlocked → ∃ last step, calls.2 = last + 1 ∧
      steps last = .ok step ∧ step.stopReason = .guardBlocked) :
    Accounts startedAt initial policy clock steps result calls := by
  obtain ⟨notBefore, _, _, rfl⟩ := finishResult_eq_ok.mp finishes
  have distance : terminal.frontierSequence - initial.frontierSequence =
      index := by
    rw [stays, led.frontier, Nat.add_sub_cancel_left]
  have sequences : executed steps calls.2 =
      List.range' (initial.frontierSequence + 1) index := by
    rcases idle with none | ⟨one, nothing⟩
    · rw [none]
      exact executed_advances led.advanced
    · rw [one, executed_succ, nothing, List.append_nil]
      exact executed_advances led.advanced
  have counted : ((List.range calls.2).filter
      (fun index => (executedBy steps index).isEmpty = false)).length =
        index := by
    rcases idle with none | ⟨one, nothing⟩
    · rw [none]
      exact counted_advances led.advanced
    · rw [one, List.range_succ, List.filter_append, List.length_append,
        counted_advances led.advanced]
      simp [nothing]
  exact
    { floors := floors
      resumeBlocked := unready
      guardBlocked := guarded
      clocked := ⟨last, called, reads, notBefore, rfl⟩
      starting := rfl
      advanced := by
        simp only [distance]
        rw [stays, led.frontier]
      sequences := by rw [sequences, distance]
      counted := by rw [counted, distance]
      terminal := rfl }

/-! ### What a turn leads to -/

variable (campaignId initial steps) in
/-- Every started step that returned was one of the campaign and advanced it
as it should. -/
def Conforming (started : Nat) : Prop :=
  ∀ earlier < started, ∀ step, steps earlier = .ok step →
    Conforms campaignId (initial.frontierSequence + earlier) step

variable (startedAt initial policy clock steps) in
/-- No step was started that must not be. -/
def Allowed (started : Nat) : Prop :=
  ∀ earlier < started, MayStart startedAt initial policy clock steps earlier

theorem Led.allowed_succ
    (led : Led campaignId startedAt initial policy clock steps index current)
    (due : MayStart startedAt initial policy clock steps index) :
    Allowed startedAt initial policy clock steps (index + 1) := by
  intro earlier inside
  rcases Nat.lt_succ_iff_lt_or_eq.mp inside with before | same
  · exact led.started earlier before
  · rw [same]
    exact due

theorem Led.conforming_succ
    (led : Led campaignId startedAt initial policy clock steps index current)
    (last : ∀ step, steps index = .ok step →
      Conforms campaignId (initial.frontierSequence + index) step) :
    Conforming campaignId initial steps (index + 1) := by
  intro earlier inside
  rcases Nat.lt_succ_iff_lt_or_eq.mp inside with before | same
  · exact led.conforms earlier before
  · rw [same]
    exact last

/-- A step that completed its iteration leads to the next turn. -/
theorem Led.next {step : GuardedBatchResult}
    (led : Led campaignId startedAt initial policy clock steps index current)
    (due : MayStart startedAt initial policy clock steps index)
    (reports : steps index = .ok step)
    (conforms : Conforms campaignId (initial.frontierSequence + index) step)
    (completed : step.stopReason = .requestedCountCompleted) :
    Led campaignId startedAt initial policy clock steps (index + 1)
      step.terminalResumeStatus := by
  obtain ⟨_, sequence, forwards⟩ := conforms.advance completed
  refine
    { status := by simp [statusBefore, reports, Outcome.toOption]
      frontier := forwards
      started := led.allowed_succ due
      conforms := led.conforming_succ ?_
      advanced := ?_ }
  · intro other same
    rw [reports] at same
    injection same with equal
    rw [← equal]
    exact conforms
  · intro earlier inside
    rcases Nat.lt_succ_iff_lt_or_eq.mp inside with before | same
    · exact led.advanced earlier before
    · rw [same, executedBy, reports]
      exact sequence

variable (campaignId startedAt initial policy clock steps) in
/-- What holds at every end of the loop.  A step that does not conform ends it
with an error. -/
def ends {α : Type} (returns : α → Nat × Nat → Prop) :
    Post (Nat × Nat) String α :=
  { ok := fun value calls =>
      Allowed startedAt initial policy clock steps calls.2 ∧
        Conforming campaignId initial steps calls.2 ∧ returns value calls
    error := fun _ calls =>
      Allowed startedAt initial policy clock steps calls.2
    killed := fun calls =>
      Allowed startedAt initial policy clock steps calls.2 ∧
        Conforming campaignId initial steps calls.2 }

variable (campaignId startedAt initial policy clock steps) in
/-- A turn ends with a result, or it leads to the next one. -/
def turnEnds (index : Nat) :
    Post (Nat × Nat) String (CampaignRunResult ⊕ ResumeStatus) :=
  ends campaignId startedAt initial policy clock steps
    (Sum.elim (Accounts startedAt initial policy clock steps)
      (fun next calls => calls = (index + 1, index + 1) ∧
        Led campaignId startedAt initial policy clock steps (index + 1) next))

/-- Behind a block the clock is read once more. -/
theorem wp_blockedStep {step : GuardedBatchResult}
    {reason : CampaignStopReason}
    (led : Led campaignId startedAt initial policy clock steps index current)
    (due : MayStart startedAt initial policy clock steps index)
    (reports : steps index = .ok step)
    (conforms : Conforms campaignId (initial.frontierSequence + index) step)
    (nothing : step.completedSequences = [])
    (stays : step.terminalResumeStatus.frontierSequence =
      step.startingFrontierSequence)
    (other : reason ≠ .acceptanceFloorsSatisfied)
    (unready : reason = .resumeBlocked →
      step.terminalResumeStatus.state ≠ .ready)
    (guarded : reason = .guardBlocked → step.stopReason = .guardBlocked) :
    wp (do
        let observedAt ← onFirst (scripted clock)
        let result ← ofExcept (finishResult campaignId startedAt observedAt
          policy initial.frontierSequence reason step.terminalResumeStatus)
        return .inl result)
      (turnEnds campaignId startedAt initial policy clock steps index)
      (index + 1, index + 1) := by
  have allowed := led.allowed_succ due
  have conforming : Conforming campaignId initial steps (index + 1) := by
    refine led.conforming_succ (fun found same => ?_)
    rw [reports] at same
    injection same with equal
    rw [← equal]
    exact conforms
  rw [wp_bind, wp_onFirst, wp_scripted]
  cases reads : clock (index + 1) with
  | error failure => exact allowed
  | killed => exact ⟨allowed, conforming⟩
  | ok observedAt =>
      simp only [Post.Holds]
      rw [wp_bind, wp_ofExcept]
      cases finishes : finishResult campaignId startedAt observedAt policy
          initial.frontierSequence reason step.terminalResumeStatus with
      | error failure => exact allowed
      | ok result =>
          refine ⟨allowed, conforming, led.accounts ?_ rfl reads ?_ finishes
            (fun same => absurd same other) unready
            (fun same => ⟨index, step, rfl, reports, guarded same⟩)⟩
          · refine Or.inr ⟨rfl, ?_⟩
            rw [executedBy, reports]
            exact nothing
          · rw [stays, conforms.starting, led.frontier]

theorem wp_judgeStep {step : GuardedBatchResult}
    (produced : Produced setting step)
    (led : Led campaignId startedAt initial policy clock steps index current)
    (due : MayStart startedAt initial policy clock steps index)
    (reports : steps index = .ok step) :
    wp (judgeStep campaignId startedAt initial.frontierSequence policy
        (onFirst (scripted clock)) current step)
      (turnEnds campaignId startedAt initial policy clock steps index)
      (index + 1, index + 1) := by
  have allowed := led.allowed_succ due
  rw [judgeStep, wp_bind, wp_ofExcept]
  cases checks : checkStep campaignId current step with
  | error failure => exact allowed
  | ok _ =>
      obtain ⟨sameCampaign, sameFrontier⟩ := checkStep_eq_ok.mp checks
      rw [led.frontier] at sameFrontier
      cases stops : step.stopReason with
      | requestedCountCompleted =>
          simp only
          rw [wp_bind, wp_ofExcept]
          cases advances : advancedStatus current step with
          | error failure => exact allowed
          | ok next =>
              obtain ⟨_, one, sequence, forwards, rfl⟩ :=
                advancedStatus_eq_ok.mp advances
              rw [led.frontier] at sequence forwards
              have conforms : Conforms campaignId
                  (initial.frontierSequence + index) step :=
                ⟨sameCampaign, sameFrontier,
                  fun _ => ⟨one, sequence, forwards⟩⟩
              have next := led.next due reports conforms stops
              exact ⟨allowed, next.conforms, rfl, next⟩
      | resumeBlocked =>
          have stopped : step.stopReason ≠ .requestedCountCompleted := by
            simp [stops]
          obtain ⟨nothing, stays⟩ := produced.blocked stopped
          exact wp_blockedStep led due reports
            ⟨sameCampaign, sameFrontier, fun same => absurd same stopped⟩
            nothing stays (by simp) (fun _ => produced.unready stops) (by simp)
      | guardBlocked =>
          have stopped : step.stopReason ≠ .requestedCountCompleted := by
            simp [stops]
          obtain ⟨nothing, stays⟩ := produced.blocked stopped
          exact wp_blockedStep led due reports
            ⟨sameCampaign, sameFrontier, fun same => absurd same stopped⟩
            nothing stays (by simp) (by simp) (fun _ => stops)

/-- A result without a step. -/
theorem wp_decided {reason : CampaignStopReason} {observedAt : Nat}
    (led : Led campaignId startedAt initial policy clock steps index current)
    (reads : clock index = .ok observedAt)
    (floors : reason = .acceptanceFloorsSatisfied →
      current.state = .ready ∧
        FloorsHold policy (observedAt - startedAt) current.frontierSequence)
    (unready : reason = .resumeBlocked → current.state ≠ .ready)
    (other : reason ≠ .guardBlocked) :
    wp (do
        let result ← ofExcept (finishResult campaignId startedAt observedAt
          policy initial.frontierSequence reason current)
        return .inl result)
      (turnEnds campaignId startedAt initial policy clock steps index)
      (index + 1, index) := by
  rw [wp_bind, wp_ofExcept]
  cases finishes : finishResult campaignId startedAt observedAt policy
      initial.frontierSequence reason current with
  | error failure => exact led.started
  | ok result =>
      exact ⟨led.started, led.conforms, led.accounts (Or.inl rfl) rfl reads
        rfl finishes floors unready (fun same => absurd same other)⟩

theorem wp_acceptanceTurn
    (produced : ∀ index step, steps index = .ok step →
      Produced setting step)
    (led : Led campaignId startedAt initial policy clock steps index current) :
    wp (acceptanceTurn campaignId startedAt initial.frontierSequence policy
        (onFirst (scripted clock)) (onSecond (scripted steps)) current)
      (turnEnds campaignId startedAt initial policy clock steps index)
      (index, index) := by
  rw [acceptanceTurn, wp_bind, wp_onFirst, wp_scripted]
  cases reads : clock index with
  | error failure => exact led.started
  | killed => exact ⟨led.started, led.conforms⟩
  | ok observedAt =>
      simp only [Post.Holds]
      rw [wp_bind, wp_ofExcept]
      cases elapses : checkedElapsedNanos startedAt observedAt with
      | error failure => exact led.started
      | ok elapsedNanos =>
          obtain ⟨notBefore, rfl⟩ := checkedElapsedNanos_eq_ok.mp elapses
          simp only
          by_cases state : current.state = .ready
          · rw [if_neg (not_not_intro state), wp_bind, wp_ofExcept]
            cases minimum : policyMinimumElapsedNanos policy with
            | error failure => exact led.started
            | ok minimumElapsedNanos =>
                obtain ⟨_, rfl⟩ := policyMinimumElapsedNanos_eq_ok.mp minimum
                simp only
                by_cases floors :
                    policy.minimumElapsed ≤ observedAt - startedAt ∧
                      policy.minimumCompletedIterations ≤
                        current.frontierSequence
                · rw [if_pos floors]
                  exact wp_decided led reads (fun _ => ⟨state, floors⟩)
                    (by simp) (by simp)
                · rw [if_neg floors, wp_bind, wp_onSecond, wp_scripted]
                  have due : MayStart startedAt initial policy clock steps
                      index :=
                    ⟨current, observedAt, led.status, state, reads, notBefore,
                      floors⟩
                  cases reports : steps index with
                  | error failure => exact led.allowed_succ due
                  | killed =>
                      refine ⟨led.allowed_succ due,
                        led.conforming_succ (fun step same => ?_)⟩
                      rw [reports] at same
                      cases same
                  | ok step =>
                      exact wp_judgeStep (produced index step reports) led due
                        reports
          · rw [if_pos state]
            exact wp_decided led reads (by simp) (fun _ => state) (by simp)

/-- In a ready campaign only the floors decide. -/
theorem acceptanceTurn_ready {calls : Nat × Nat} {observedAt : Nat}
    (reads : clock calls.1 = .ok observedAt) (notBefore : startedAt ≤ observedAt)
    (small : policy.minimumElapsed ≤ u64Max)
    (state : current.state = .ready) :
    acceptanceTurn campaignId startedAt initial.frontierSequence policy
        (onFirst (scripted clock)) (onSecond (scripted steps)) current calls =
      (if policy.minimumElapsed ≤ observedAt - startedAt ∧
          policy.minimumCompletedIterations ≤ current.frontierSequence then do
        let result ← ofExcept (finishResult campaignId startedAt observedAt
          policy initial.frontierSequence .acceptanceFloorsSatisfied current)
        return .inl result
      else do
        let step ← onSecond (scripted steps)
        judgeStep campaignId startedAt initial.frontierSequence policy
          (onFirst (scripted clock)) current step :
        CrashRun (Nat × Nat) String (CampaignRunResult ⊕ ResumeStatus))
        (calls.1 + 1, calls.2) := by
  have read : (onFirst (scripted clock) : CrashRun (Nat × Nat) String Nat)
      calls = (.ok observedAt, (calls.1 + 1, calls.2)) := by
    rw [onFirst_run, scripted_run, reads]
  rw [acceptanceTurn, bind_ok read, bind_ok (ofExcept_returned.mpr
    ⟨checkedElapsedNanos_eq_ok.mpr ⟨notBefore, rfl⟩, rfl⟩),
    if_neg (not_not_intro state), bind_ok (ofExcept_returned.mpr
    ⟨policyMinimumElapsedNanos_eq_ok.mpr ⟨small, rfl⟩, rfl⟩)]

/-- With both floors the turn accepts the campaign. -/
theorem acceptanceTurn_accepts {calls : Nat × Nat} {observedAt : Nat}
    (reads : clock calls.1 = .ok observedAt) (notBefore : startedAt ≤ observedAt)
    (small : policy.minimumElapsed ≤ u64Max)
    (forwards : initial.frontierSequence ≤ current.frontierSequence)
    (state : current.state = .ready)
    (floors : FloorsHold policy (observedAt - startedAt)
      current.frontierSequence) :
    ∃ result, acceptanceTurn campaignId startedAt initial.frontierSequence
        policy (onFirst (scripted clock)) (onSecond (scripted steps)) current
        calls = (.ok (.inl result), (calls.1 + 1, calls.2)) ∧
      result.stopReason = .acceptanceFloorsSatisfied ∧
      result.iterationsCompletedByInvocation =
        current.frontierSequence - initial.frontierSequence := by
  rw [FloorsHold] at floors
  rw [acceptanceTurn_ready reads notBefore small state, if_pos floors,
    bind_ok (ofExcept_returned.mpr
      ⟨finishResult_eq_ok.mpr ⟨notBefore, forwards, small, rfl⟩, rfl⟩)]
  exact ⟨_, rfl, rfl, rfl⟩

/-- Without them it goes on behind a step that conforms. -/
theorem acceptanceTurn_advances {calls : Nat × Nat} {observedAt : Nat}
    {step : GuardedBatchResult}
    (reads : clock calls.1 = .ok observedAt) (notBefore : startedAt ≤ observedAt)
    (small : policy.minimumElapsed ≤ u64Max)
    (state : current.state = .ready)
    (missing : ¬FloorsHold policy (observedAt - startedAt)
      current.frontierSequence)
    (reports : steps calls.2 = .ok step)
    (conforms : Conforms campaignId current.frontierSequence step)
    (completed : step.stopReason = .requestedCountCompleted)
    (room : current.frontierSequence + 1 ≤ u64Max) :
    acceptanceTurn campaignId startedAt initial.frontierSequence policy
        (onFirst (scripted clock)) (onSecond (scripted steps)) current calls =
      (.ok (.inr step.terminalResumeStatus), (calls.1 + 1, calls.2 + 1)) := by
  have stepped : (onSecond (scripted steps) :
      CrashRun (Nat × Nat) String GuardedBatchResult)
      (calls.1 + 1, calls.2) = (.ok step, (calls.1 + 1, calls.2 + 1)) := by
    rw [onSecond_run, scripted_run, reports]
  obtain ⟨one, sequence, forwards⟩ := conforms.advance completed
  rw [FloorsHold] at missing
  rw [acceptanceTurn_ready reads notBefore small state, if_neg missing,
    bind_ok stepped, judgeStep, bind_ok (ofExcept_returned.mpr
    ⟨checkStep_eq_ok.mpr ⟨conforms.campaign, conforms.starting⟩, rfl⟩)]
  simp only [completed]
  rw [bind_ok (ofExcept_returned.mpr
    ⟨advancedStatus_eq_ok.mpr ⟨room, one, sequence, forwards, rfl⟩, rfl⟩)]
  rfl

end Turn

/-! ### The whole loop -/

section Runs

variable {setting : Setting} {campaignId : String} {startedAt : Nat}
variable {initial : ResumeStatus} {policy : CampaignAcceptancePolicy}
variable {clock : Nat → Outcome String Nat}
variable {steps : Nat → Outcome String GuardedBatchResult}

variable (campaignId startedAt initial policy clock steps) in
/-- The loop against a clock and a sequence of steps.  It leaves the numbers
of the calls that it made. -/
def scriptedRun (turns : Nat) :
    Outcome String (Option CampaignRunResult) × (Nat × Nat) :=
  runAcceptanceLoop campaignId startedAt initial policy
    (onFirst (scripted clock)) (onSecond (scripted steps)) turns (0, 0)

theorem wp_acceptanceTurns {index : Nat} {current : ResumeStatus}
    (produced : ∀ index step, steps index = .ok step →
      Produced setting step)
    (turns : Nat)
    (led : Led campaignId startedAt initial policy clock steps index current) :
    wp (acceptanceTurns campaignId startedAt initial.frontierSequence policy
        (onFirst (scripted clock)) (onSecond (scripted steps)) turns current)
      (ends campaignId startedAt initial policy clock steps
        (fun found calls => ∀ result, found = some result →
          Accounts startedAt initial policy clock steps result calls))
      (index, index) := by
  induction turns generalizing index current with
  | zero => exact ⟨led.started, led.conforms, fun _ none => by cases none⟩
  | succ turns ih =>
      rw [acceptanceTurns, wp_bind]
      refine wp_mono (wp_acceptanceTurn produced led) ?_ ?_ ?_
      · intro turn calls ended
        cases turn with
        | inl result =>
            obtain ⟨allowed, conforming, accounts⟩ := ended
            refine ⟨allowed, conforming, fun found same => ?_⟩
            injection same with equal
            rw [← equal]
            exact accounts
        | inr next =>
            obtain ⟨_, _, rfl, later⟩ := ended
            exact ih later
      · exact fun _ _ allowed => allowed
      · exact fun _ stopped => stopped

theorem wp_runAcceptanceLoop
    (produced : ∀ index step, steps index = .ok step →
      Produced setting step)
    (turns : Nat) :
    (ends campaignId startedAt initial policy clock steps
      (fun found calls => ∀ result, found = some result →
        Accounts startedAt initial policy clock steps result calls)).Holds
      (scriptedRun campaignId startedAt initial policy clock steps turns) := by
  have begin : Led campaignId startedAt initial policy clock steps 0 initial :=
    .begin
  change wp (runAcceptanceLoop campaignId startedAt initial policy
    (onFirst (scripted clock)) (onSecond (scripted steps)) turns) _ (0, 0)
  rw [runAcceptanceLoop, wp_bind, wp_ofExcept]
  cases validatePolicy policy with
  | error failure => exact begin.started
  | ok _ =>
      simp only
      rw [wp_bind, wp_ofExcept]
      cases ensure (initial.campaignId = campaignId)
          (s!"initial resume campaign {Text.debug initial.campaignId} " ++
            s!"disagrees with requested campaign {Text.debug campaignId}") with
      | error failure => exact begin.started
      | ok _ => exact wp_acceptanceTurns produced turns begin

/-- The controller starts a step only in a ready campaign that misses a
floor; its results account for exactly the iterations of the steps it
started, and a step that does not conform ends the loop with an error. -/
theorem acceptanceLoop_exact
    (produced : ∀ index step, steps index = .ok step →
      Produced setting step)
    (turns : Nat) {outcome : Outcome String (Option CampaignRunResult)}
    {calls : Nat × Nat}
    (ran : scriptedRun campaignId startedAt initial policy clock steps turns =
      (outcome, calls)) :
    (∀ index < calls.2,
      MayStart startedAt initial policy clock steps index) ∧
    (∀ result, outcome = .ok (some result) →
      Accounts startedAt initial policy clock steps result calls) ∧
    (∀ index < calls.2, ∀ step, steps index = .ok step →
      ¬Conforms campaignId (initial.frontierSequence + index) step →
        ∃ message, outcome = .error message) := by
  have holds := @wp_runAcceptanceLoop setting campaignId startedAt initial policy
    clock steps produced turns
  rw [ran] at holds
  cases outcome with
  | ok found =>
      obtain ⟨allowed, conforming, accounts⟩ := holds
      refine ⟨allowed, fun result same => ?_,
        fun index inside step reports deviates => ?_⟩
      · injection same with equal
        exact accounts result equal
      · exact absurd (conforming index inside step reports) deviates
  | error message =>
      exact ⟨holds, by simp, fun _ _ _ _ _ => ⟨message, rfl⟩⟩
  | killed =>
      obtain ⟨allowed, conforming⟩ := holds
      exact ⟨allowed, by simp, fun index inside step reports deviates =>
        absurd (conforming index inside step reports) deviates⟩

end Runs

/-! ### Closures -/

section Closures

variable {σ : Type} {setting : Setting} {campaignId : String}
variable {startedAt : Nat} {initial : ResumeStatus}
variable {policy : CampaignAcceptancePolicy}
variable (now : CrashRun σ String Nat)
variable (nextStep : CrashRun σ String GuardedBatchResult)

/-- The state of the closures in front of a turn. -/
def stateBefore (state : σ) : Nat → σ
  | 0 => state
  | index + 1 => (nextStep (now (stateBefore state index)).2).2

/-- The answers of the clock, turn by turn. -/
def readings (state : σ) (index : Nat) : Outcome String Nat :=
  (now (stateBefore now nextStep state index)).1

/-- The answers of the step. -/
def reported (state : σ) (index : Nat) : Outcome String GuardedBatchResult :=
  (nextStep (now (stateBefore now nextStep state index)).2).1

variable {now nextStep}

theorem judgeStep_next {current next : ResumeStatus}
    {step : GuardedBatchResult} {state after : σ}
    (goesOn : judgeStep campaignId startedAt initial.frontierSequence policy
      now current step state = (.ok (.inr next), after)) : after = state := by
  obtain ⟨_, _, checks, rest⟩ := bind_returned.mp goesOn
  obtain ⟨_, rfl⟩ := ofExcept_returned.mp checks
  cases stops : step.stopReason with
  | requestedCountCompleted =>
      simp only [stops] at rest
      obtain ⟨_, _, advances, ends⟩ := bind_returned.mp rest
      obtain ⟨_, rfl⟩ := ofExcept_returned.mp advances
      exact (pure_returned.mp ends).2
  | resumeBlocked =>
      simp only [stops, bind_returned, pure_returned] at rest
      obtain ⟨_, _, _, _, _, _, impossible, _⟩ := rest
      cases impossible
  | guardBlocked =>
      simp only [stops, bind_returned, pure_returned] at rest
      obtain ⟨_, _, _, _, _, _, impossible, _⟩ := rest
      cases impossible

/-- A turn that goes on called the clock once and then the step. -/
theorem acceptanceTurn_next {current next : ResumeStatus} {state after : σ}
    (goesOn : acceptanceTurn campaignId startedAt initial.frontierSequence
      policy now nextStep current state = (.ok (.inr next), after)) :
    after = (nextStep (now state).2).2 := by
  obtain ⟨_, read, reads, checked⟩ := bind_returned.mp goesOn
  obtain ⟨_, _, elapses, decides⟩ := bind_returned.mp checked
  obtain ⟨_, rfl⟩ := ofExcept_returned.mp elapses
  rw [reads]
  by_cases state : current.state = .ready
  · rw [if_neg (not_not_intro state)] at decides
    obtain ⟨_, _, minimum, compares⟩ := bind_returned.mp decides
    obtain ⟨_, rfl⟩ := ofExcept_returned.mp minimum
    split_ifs at compares with floors
    · simp only [bind_returned, pure_returned] at compares
      obtain ⟨_, _, _, impossible, _⟩ := compares
      cases impossible
    · obtain ⟨_, stepped, steps, judges⟩ := bind_returned.mp compares
      rw [steps]
      exact judgeStep_next judges
  · rw [if_pos state] at decides
    simp only [bind_returned, pure_returned] at decides
    obtain ⟨_, _, _, impossible, _⟩ := decides
    cases impossible

/-- A turn answers as it does against the scripts of its closures. -/
theorem acceptanceTurn_alike (state : σ) (index : Nat)
    (current : ResumeStatus) :
    (acceptanceTurn campaignId startedAt initial.frontierSequence policy now
        nextStep current (stateBefore now nextStep state index)).1 =
      (acceptanceTurn campaignId startedAt initial.frontierSequence policy
        (onFirst (scripted (readings now nextStep state)))
        (onSecond (scripted (reported now nextStep state))) current
        (index, index)).1 := by
  refine bind_alike rfl (fun observedAt _ => ofExcept_alike
    (fun elapsedNanos _ => ?_))
  by_cases unready : current.state ≠ .ready
  · rw [if_pos unready, if_pos unready]
    exact ofExcept_alike (fun _ _ => rfl)
  · rw [if_neg unready, if_neg unready]
    refine ofExcept_alike (fun minimum _ => ?_)
    by_cases floors : minimum ≤ elapsedNanos ∧
        policy.minimumCompletedIterations ≤ current.frontierSequence
    · rw [if_pos floors, if_pos floors]
      exact ofExcept_alike (fun _ _ => rfl)
    · rw [if_neg floors, if_neg floors]
      refine bind_alike rfl (fun step _ => ofExcept_alike (fun _ _ => ?_))
      cases step.stopReason with
      | requestedCountCompleted => exact ofExcept_alike (fun _ _ => rfl)
      | resumeBlocked =>
          exact bind_alike rfl (fun _ _ => ofExcept_alike (fun _ _ => rfl))
      | guardBlocked =>
          exact bind_alike rfl (fun _ _ => ofExcept_alike (fun _ _ => rfl))

theorem acceptanceTurns_alike (state : σ) (turns index : Nat)
    (current : ResumeStatus) :
    (acceptanceTurns campaignId startedAt initial.frontierSequence policy now
        nextStep turns current (stateBefore now nextStep state index)).1 =
      (acceptanceTurns campaignId startedAt initial.frontierSequence policy
        (onFirst (scripted (readings now nextStep state)))
        (onSecond (scripted (reported now nextStep state))) turns current
        (index, index)).1 := by
  induction turns generalizing index current with
  | zero => rfl
  | succ turns ih =>
      have alike := @acceptanceTurn_alike σ campaignId startedAt initial policy
        now nextStep state index current
      refine bind_alike alike (fun turn goesOn => ?_)
      cases turn with
      | inl result => rfl
      | inr next =>
          have own := acceptanceTurn_next (Prod.ext goesOn rfl)
          have twin := acceptanceTurn_next
            (Prod.ext (alike.symm.trans goesOn) rfl)
          exact (congrArg (fun place => (acceptanceTurns _ _ _ _ now nextStep
            turns next place).1) own).trans ((ih (index + 1) next).trans
              (congrArg (fun place => (acceptanceTurns _ _ _ _ _ _ turns next
                place).1) twin).symm)

/-- The loop answers as it does against the scripts of its closures. -/
theorem runAcceptanceLoop_alike (state : σ) (turns : Nat) :
    (runAcceptanceLoop campaignId startedAt initial policy now nextStep turns
        state).1 =
      (scriptedRun campaignId startedAt initial policy
        (readings now nextStep state) (reported now nextStep state) turns).1 :=
  ofExcept_alike (fun _ _ => ofExcept_alike (fun _ _ =>
    acceptanceTurns_alike state turns 0 initial))

end Closures

/-- What the command returns accounts for the batches that it ran over the
evidence. -/
theorem campaign_accounts {setting : Setting} {campaignId : String}
    {intervalMillis : Nat} {guards : Nat → GuardRun}
    {policy : CampaignAcceptancePolicy} {turns : Nat} {world : World}
    {result : CampaignRunResult} {after : World × Nat}
    (returned : executeAcceptanceCampaignWithPolicy setting campaignId
      intervalMillis guards policy turns (world, 0) =
        (.ok (some result), after)) :
    ∃ startedAt initial clock steps calls,
      (∀ index step, steps index = .ok step → Produced setting step) ∧
        Accounts startedAt initial policy clock steps result calls := by
  obtain ⟨_, _, validates, rest⟩ := bind_returned.mp returned
  obtain ⟨store, opened, _, reads⟩ := bind_returned.mp rest
  obtain ⟨disk, here, _, reconciles⟩ := bind_returned.mp reads
  obtain ⟨initial, there, _, runs⟩ := bind_returned.mp reconciles
  let now : CrashRun (World × Nat) String Nat := onFirst nowUnixNanos
  let nextStep := guardedStep setting campaignId intervalMillis guards
  have produced : ∀ index step, reported now nextStep there index = .ok step →
      Produced setting step := by
    intro index step reports
    exact ⟨campaignId, intervalMillis, _, _, _, Prod.ext reports rfl⟩
  have alike := @runAcceptanceLoop_alike _ campaignId
    store.campaign.createdAtUnixNanosUtc initial policy now nextStep there turns
  rw [runs] at alike
  have holds := @wp_runAcceptanceLoop setting campaignId
    store.campaign.createdAtUnixNanosUtc initial policy
    (readings now nextStep there) (reported now nextStep there) produced turns
  cases ran : scriptedRun campaignId store.campaign.createdAtUnixNanosUtc
      initial policy (readings now nextStep there)
      (reported now nextStep there) turns with
  | mk outcome calls =>
      rw [ran] at alike holds
      simp only at alike
      subst alike
      exact ⟨_, initial, _, _, calls, produced, holds.2.2 result rfl⟩

/-- A campaign that the command accepts ran for a day and a hundred
iterations, and is still ready. -/
theorem accepted_canonical {setting : Setting} {campaignId : String}
    {intervalMillis : Nat} {guards : Nat → GuardRun} {turns : Nat}
    {world : World} {result : CampaignRunResult} {after : World × Nat}
    (returned : executeAcceptanceCampaign setting campaignId intervalMillis
      guards turns (world, 0) = (.ok (some result), after))
    (accepted : result.stopReason = .acceptanceFloorsSatisfied) :
    result.terminalResumeStatus.state = .ready ∧
      canonicalMinimumElapsed ≤ result.elapsedNanos ∧
      canonicalMinimumCompletedIterations ≤ result.finalFrontierSequence := by
  obtain ⟨_, _, _, _, _, _, accounts⟩ := campaign_accounts returned
  exact accounts.floors accepted

/-! ### A campaign of one iteration -/

/-- A batch of one iteration in a ready campaign whose log is whole. -/
theorem guardedBatch_advances {setting : Setting} {campaignId : String}
    {frontier intervalMillis : Nat} {guards : Nat → GuardRun} {world : World}
    {executed : RunNextResult} {after : World}
    (ready : Ready setting campaignId world.disk frontier)
    (terminated : LineLog.Terminated (world.disk.events.getD []))
    (room : frontier + 1 + 1 ≤ u64Max)
    (allows : (guards 0).allows = true)
    (runs : executeNextSampledRecordedIteration setting campaignId
      intervalMillis world = (.ok executed, after)) :
    ∃ step, executeGuardedBoundedBatch setting campaignId intervalMillis guards
        1 world = (.ok step, after) ∧
      Conforms campaignId frontier step ∧
      step.stopReason = .requestedCountCompleted ∧
      step.terminalResumeStatus = readyOf campaignId (frontier + 1) := by
  rw [executeNext_selects ready] at runs
  obtain ⟨_, _, _, texts, content, text, evidenced, shown⟩ :=
    executeSelected_returned ready runs
  have reports := reconcile_completed ready evidenced terminated
  rw [← reconcile_shows shown, statusAt, if_pos room] at reports
  have turn := @guardedLoop_ready setting campaignId frontier intervalMillis
    guards world 0 .start ready
  have first :
      (guards GuardedProgress.start.guardAttempts.length).allows = true :=
    allows
  rw [if_pos first, bind_ok runs] at turn
  refine ⟨_, guardedBatch_returned.mpr ⟨Nat.one_ne_zero, _, frontier,
    readyOf campaignId (frontier + 1), turn, rfl, ?_,
    (by decide : 1 ≤ u64Max), rfl⟩, ⟨rfl, rfl, fun _ => ⟨rfl, rfl, rfl⟩⟩, rfl,
    rfl⟩
  rw [GuardedProgress.start, terminalStatus, bind_ok (readDisk_run after),
    reports]
  rfl

/-- One iteration is enough for floors of no time and one iteration. -/
theorem acceptanceLoop_exact_fresh : ∃ step result,
    Produced exampleSetting step ∧
    scriptedRun "c" 0 (readyOf "c" 0) ⟨0, 1⟩ (fun _ => .ok 0)
      (fun _ => .ok step) 2 = (.ok (some result), (2, 1)) ∧
    result.stopReason = .acceptanceFloorsSatisfied ∧
    result.iterationsCompletedByInvocation = 1 ∧
    Accounts 0 (readyOf "c" 0) ⟨0, 1⟩ (fun _ => .ok 0) (fun _ => .ok step)
      result (2, 1) := by
  let start := World.start freshDir (fun _ => faultlessAnswer)
  have fresh : Ready exampleSetting "c" start.disk 0 := freshDir_ready
  obtain ⟨_, after, runs, _⟩ := executeNext_faultless fresh
    (show minSampleIntervalMillis ≤ 10 ∧ 10 ≤ maxSampleIntervalMillis
      by decide) rfl
  obtain ⟨step, returned, conforms, completed, ready⟩ :=
    @guardedBatch_advances exampleSetting "c" 0 10 allowing start _ after fresh
      rfl (by decide) rfl runs
  have produced : Produced exampleSetting step :=
    ⟨"c", 10, allowing, start, after, returned⟩
  have ran : ∃ result, scriptedRun "c" 0 (readyOf "c" 0) ⟨0, 1⟩
      (fun _ => .ok 0) (fun _ => .ok step) 2 = (.ok (some result), (2, 1)) ∧
      result.stopReason = .acceptanceFloorsSatisfied ∧
      result.iterationsCompletedByInvocation = 1 := by
    have goesOn := @acceptanceTurn_advances "c" 0 (readyOf "c" 0) ⟨0, 1⟩
      (fun _ => .ok 0) (fun _ => .ok step) (readyOf "c" 0) (0, 0) 0 step rfl
      (Nat.le_refl 0) (Nat.zero_le _) rfl (fun floors => by cases floors.2) rfl
      conforms completed (by decide)
    obtain ⟨result, accepts, reason, count⟩ := @acceptanceTurn_accepts "c" 0
      (readyOf "c" 0) ⟨0, 1⟩ (fun _ => .ok 0) (fun _ => .ok step)
      (readyOf "c" 1) (1, 1) 0 rfl (Nat.le_refl 0) (Nat.zero_le _)
      (Nat.zero_le _) rfl ⟨Nat.le_refl 0, Nat.le_refl 1⟩
    rw [ready] at goesOn
    refine ⟨result, ?_, reason, count⟩
    change acceptanceTurns "c" 0 (readyOf "c" 0).frontierSequence ⟨0, 1⟩
      (onFirst (scripted fun _ => .ok 0))
      (onSecond (scripted fun _ => .ok step)) 2 (readyOf "c" 0) (0, 0) = _
    rw [acceptanceTurns, bind_ok goesOn]
    simp only
    rw [acceptanceTurns, bind_ok accepts]
    rfl
  obtain ⟨result, ran, reason, count⟩ := ran
  exact ⟨step, result, produced, ran, reason, count,
    (acceptanceLoop_exact (fun _ _ same => by
      injection same with equal
      rw [← equal]
      exact produced) 2 ran).2.1 result rfl⟩

end Endurance
