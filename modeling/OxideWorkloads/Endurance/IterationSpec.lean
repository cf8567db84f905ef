/-
What the orchestration of an iteration does, whatever the observer makes of
the phases it is told.

A regime says what holds between the effects of a run and what is left when
the run stops early.  In an honest regime the environment gives the same
faultless answer every time, and a run does not stop early at all.  The
orchestration is followed once, for every regime.
-/

import OxideWorkloads.Endurance.Readback
import OxideWorkloads.Endurance.Sampling
import OxideWorkloads.Foundation.TextWrites

namespace Endurance

open Foundation
open Foundation.CrashRun
open Foundation.Checks

/-! ### Results that follow their plan -/

/-- The result of a clean iteration as its plan asks for. -/
structure CleanIterationResult.Follows (result : CleanIterationResult)
    (plan : IterationPlan) : Prop where
  planned : plan.failure = .clean
  campaignId : result.campaignId = plan.campaignId
  sequence : result.sequence = plan.sequence
  reader : result.reader = plan.reader
  importName : result.importName = plan.importName
  chunkSize : result.chunkSize = canonicalChunkSize
  sizes : (result.fetchSize, result.pageSize) = readerSizes plan.reader
  run : result.run.success = true
  verification : result.verification.success = true

/-- The result of a crash iteration as its plan asks for. -/
structure CrashIterationResult.Follows (result : CrashIterationResult)
    (plan : IterationPlan) : Prop where
  planned : plan.failure ≠ .clean
  campaignId : result.campaignId = plan.campaignId
  sequence : result.sequence = plan.sequence
  reader : result.reader = plan.reader
  failure : result.failure = plan.failure
  importName : result.importName = plan.importName
  chunkSize : result.chunkSize = canonicalChunkSize
  sizes : (result.fetchSize, result.pageSize) = readerSizes plan.reader
  failAtChunk : result.failAtChunk = canonicalCrashChunk
  crashed : result.crash.success = false
  signal : result.crash.signal = some 9
  reaped : result.crash.reaped = true
  postCrash : recoveryRequired result.postCrash.executionStatus = true
  plainRelaunch : result.plainRelaunch.success = false
  recovery : result.recovery.success = true
  continuation : result.continuation.success = true
  verification : result.verification.success = true

def RecordedExecutionResult.Follows (plan : IterationPlan) :
    RecordedExecutionResult → Prop
  | .clean result => result.Follows plan
  | .crash result => result.Follows plan

theorem readerSizes_bounded (reader : EnduranceReader) :
    (∀ size ∈ (readerSizes reader).1, size ≤ u64Max) ∧
      ∀ size ∈ (readerSizes reader).2, size ≤ u64Max := by
  cases reader <;> decide

theorem RecordedExecutionResult.Follows.bounded {plan : IterationPlan}
    {execution : RecordedExecutionResult} (follows : execution.Follows plan)
    (small : plan.sequence ≤ u64Max) : execution.Bounded := by
  have chunk : canonicalChunkSize ≤ u64Max := by decide
  have crashChunk : canonicalCrashChunk ≤ u64Max := by decide
  have sizes := readerSizes_bounded plan.reader
  cases execution with
  | clean result =>
      rw [← follows.sizes] at sizes
      refine ⟨?_, ?_, sizes.1, sizes.2⟩
      · rw [follows.sequence]
        exact small
      · rw [follows.chunkSize]
        exact chunk
  | crash result =>
      rw [← follows.sizes] at sizes
      refine ⟨?_, ?_, ?_, sizes.1, sizes.2⟩
      · rw [follows.sequence]
        exact small
      · rw [follows.chunkSize]
        exact chunk
      · rw [follows.failAtChunk]
        exact crashChunk

theorem RecordedExecutionResult.Follows.sequence_eq {plan : IterationPlan}
    {execution : RecordedExecutionResult} (follows : execution.Follows plan) :
    execution.sequence = plan.sequence := by
  cases execution with
  | clean result => exact CleanIterationResult.Follows.sequence follows
  | crash result => exact CrashIterationResult.Follows.sequence follows

/-! ### Regimes -/

/-- An environment in which nothing fails. -/
def faultlessAnswer : Answer :=
  { killed := false
    fault := none
    landed := 0
    nanos := some 0
    processId := 1
    pid := some 2
    output := fun phase _ =>
      { status :=
          { success := phase ≠ "plain relaunch"
            code := if phase = "plain relaunch" then some 1 else some 0
            signal := none
            text := "exit status" }
        stdout := ""
        stderr := "" }
    markerPolls := fun boundary pid =>
      [{ contents := some (.ok (Text.decimal pid.toNat ++ "\n" ++ boundary ++
          "\n"))
         exited := .ok none }]
    crashOutput :=
      { status :=
          { success := false
            code := none
            signal := some 9
            text := "signal: 9 (SIGKILL)" }
        stdout := ""
        stderr := "" }
    crashState := fun _ rows =>
      { executionStatus := "STARTED"
        executionExitCode := "UNKNOWN"
        commitCount := Int64.ofInt (rows / canonicalChunkSize)
        checkpointPosition := Int64.ofInt rows
        businessRows := Int64.ofInt rows }
    deletedRows := 200000
    probe := fun target =>
      .ok
        { pid := target.pid
          role := target.role
          rssBytes := none
          cpuTimeTicks := none
          unavailableReason := some "process-exited-before-sample" }
    schedule := fun sampler =>
      if sampler.state.stop = true then
        List.replicate (sampler.state.boundaries.length + 3)
          Sampler.quietInput
      else [] }

structure Regime where
  honest : Prop
  holds : World → Prop
  broken : World → Prop
  keeps : ∀ {world}, holds world → holds world.consulted
  keepsBroken : ∀ {world}, broken world → broken world.consulted
  answers : honest → ∀ {world}, holds world →
    world.supply 0 = faultlessAnswer
  stops : ¬honest → ∀ {world}, holds world → broken world

namespace Regime

variable {regime : Regime} {α β : Type}

/-- The program runs within the regime and returns values of one kind. -/
def Runs (regime : Regime) (program : Program α) (returns : α → Prop) :
    Prop :=
  Triple regime.holds program
    (fun value world => regime.holds world ∧ returns value) regime.broken

theorem runs_pure {returns : α → Prop} {value : α} (returned : returns value) :
    regime.Runs (pure value) returns :=
  triple_pure (fun _ holds => ⟨holds, returned⟩)

theorem runs_bind {program : Program α} {next : α → Program β}
    {P : α → Prop} {Q : β → Prop} (runs : regime.Runs program P)
    (continues : ∀ value, P value → regime.Runs (next value) Q) :
    regime.Runs (program >>= next) Q :=
  triple_bind runs (fun value world holds =>
    continues value holds.2 world holds.1)

theorem runs_mono {program : Program α} {first second : α → Prop}
    (runs : regime.Runs program first)
    (weaker : ∀ value, first value → second value) :
    regime.Runs program second :=
  triple_consequence runs (fun _ => id)
    (fun value _ holds => ⟨holds.1, weaker value holds.2⟩) (fun _ => id)

theorem runs_fail {returns : α → Prop} (dishonest : ¬regime.honest)
    (failure : String) : regime.Runs (fail failure) returns :=
  triple_fail (fun _ => regime.stops dishonest) failure

theorem runs_ofExcept {result : Except String α} {returns : α → Prop}
    (onOk : ∀ value, result = .ok value → returns value)
    (succeeds : regime.honest → ∃ value, result = .ok value) :
    regime.Runs (ofExcept result) returns :=
  triple_ofExcept (fun value same _ holds => ⟨holds, onOk value same⟩)
    (fun failure same world holds => by
      refine regime.stops (fun honest => ?_) holds
      obtain ⟨value, other⟩ := succeeds honest
      rw [same] at other
      cases other)

theorem runs_consult :
    regime.Runs consult
      (fun answer => regime.honest → answer = faultlessAnswer) :=
  fun _ holds => ⟨regime.keeps holds,
    fun honest => regime.answers honest holds⟩

theorem runs_draw :
    regime.Runs draw
      (fun answer => regime.honest → answer = faultlessAnswer) := by
  refine runs_bind runs_consult (fun answer known => ?_)
  refine triple_ite (fun killed => ?_) (fun _ => runs_pure known)
  intro world holds
  refine regime.stops (fun honest => ?_) holds
  rw [known honest] at killed
  cases killed

theorem runs_perform (doing : String) :
    regime.Runs (perform doing)
      (fun answer => regime.honest → answer = faultlessAnswer) := by
  refine runs_bind runs_draw (fun answer known => ?_)
  cases fault : answer.fault with
  | none => exact runs_pure known
  | some error =>
      refine runs_fail (fun honest => ?_) _
      rw [known honest] at fault
      cases fault

theorem runs_orTerminate {program : Program α} {returns : α → Prop}
    (runs : regime.Runs program returns) :
    regime.Runs (orTerminate program) returns := by
  intro world holds
  simp only [orTerminate, wp_bind, wp_attempt]
  refine wp_mono (runs world holds) (fun _ _ => id) ?_ (fun _ => id)
  intro failure after broken
  have consulted := regime.keepsBroken broken
  simp only [wp_draw, wp_fail]
  split_ifs <;> exact consulted

/-- A check that the honest environment passes. -/
theorem runs_check {check : Except String Unit} {proves : Prop}
    (onOk : check = .ok () → proves)
    (passes : regime.honest → check = .ok ()) :
    regime.Runs (ofExcept check) (fun _ => proves) :=
  runs_ofExcept (fun _ same => onOk same) (fun honest => ⟨(), passes honest⟩)

end Regime

/-! ### Phases -/

/-- A phase of the orchestration with its detail: never a terminal event, and
a process start names the process. -/
structure Reported (phase : String) (detail : Json) : Prop where
  named : phase ≠ ""
  notSuccess : phase ≠ terminalSuccessPhase
  notFailure : phase ≠ terminalFailurePhase
  plain : PlainDetail detail
  pid : ∀ workload role, samplingAction workload phase = .process role →
    ∃ pid : UInt32, (detail.get "pid").bind Json.asU64 = some pid.toNat

theorem reported_other {phase : String} {detail : Json}
    (quiet : phase ≠ "" ∧ phase ≠ terminalSuccessPhase ∧
      phase ≠ terminalFailurePhase)
    (noStart : ∀ workload role, samplingAction workload phase ≠ .process role)
    (plain : PlainDetail detail) : Reported phase detail where
  named := quiet.1
  notSuccess := quiet.2.1
  notFailure := quiet.2.2
  plain := plain
  pid := fun workload role same => absurd same (noStart workload role)

theorem asU64_uint32 (pid : UInt32) :
    (Json.ofNat pid.toNat).asU64 = some pid.toNat := by
  have small : pid.toNat ≤ u64Max := by
    have below := pid.toNat_lt
    simp only [u64Max]
    omega
  simp [Json.ofNat, Json.asU64, small]

theorem reported_start {phase : String} {detail : Json} (pid : UInt32)
    (quiet : phase ≠ "" ∧ phase ≠ terminalSuccessPhase ∧
      phase ≠ terminalFailurePhase)
    (named : detail.get "pid" = some (.ofNat pid.toNat))
    (plain : PlainDetail detail) : Reported phase detail where
  named := quiet.1
  notSuccess := quiet.2.1
  notFailure := quiet.2.2
  plain := plain
  pid := fun _ _ _ => ⟨pid, by rw [named, Option.bind_some, asU64_uint32]⟩

theorem plain_strings (members : List (String × String))
    (distinct : (members.map Prod.fst).Nodup) :
    PlainDetail (.object
      (members.map (fun member => (member.1, Json.string member.2)))) := by
  have plainMembers : ∀ members : List (String × String),
      Json.plainMembers 125
        (members.map (fun member => (member.1, Json.string member.2))) =
          true := by
    intro members
    induction members with
    | nil => rfl
    | cons member rest ih =>
        simp [Json.plainMembers, plain_string, ih]
  rw [PlainDetail, plain_object 125, List.map_map, plainMembers]
  simpa [Function.comp_def] using distinct

/-- An observer that keeps a regime. -/
def Observes (regime : Regime) (observer : IterationObserver) : Prop :=
  ∀ phase detail, Reported phase detail →
    regime.Runs (observer phase detail) (fun _ => True)

/-! ### The orchestration -/

section Orchestration

variable {regime : Regime} {observer : IterationObserver}
variable {databaseUrl campaignId : String} {sequence : Nat}

theorem runs_runChild (observes : Observes regime observer)
    (command : List String) (phase : String)
    {startedPhase completedPhase : String}
    (started : ∀ pid, Reported startedPhase (pidDetail pid))
    (completed : ∀ process : ChildProcessResult,
      Reported completedPhase process.toJson) :
    regime.Runs
      (runChild command phase observer startedPhase completedPhase)
      (fun result => regime.honest →
        result.1.success = decide (phase ≠ "plain relaunch")) := by
  refine Regime.runs_bind (Regime.runs_perform _) (fun spawned known => ?_)
  refine Regime.runs_bind (P := fun _ => True) ?_ (fun pid _ => ?_)
  · refine Regime.runs_ofExcept (fun _ _ => trivial) (fun honest => ?_)
    rw [known honest]
    exact ⟨2, rfl⟩
  refine Regime.runs_bind (observes _ _ (started pid)) (fun _ _ => ?_)
  refine Regime.runs_bind (Regime.runs_perform _) (fun waited answered => ?_)
  refine Regime.runs_bind (observes _ _ (completed _)) (fun _ _ => ?_)
  refine Regime.runs_pure (fun honest => ?_)
  rw [answered honest]
  rfl

theorem runs_requireSuccess {phase : String} {process : ChildProcessResult}
    {output : ChildOutput}
    (succeeds : regime.honest → process.success = true) :
    regime.Runs (ofExcept (requireSuccess phase process output))
      (fun _ => process.success = true) :=
  Regime.runs_check (fun passed => ensure_eq_ok.mp passed)
    (fun honest => ensure_eq_ok.mpr (succeeds honest))

theorem runs_requireFailure {phase : String} {process : ChildProcessResult}
    {output : ChildOutput}
    (fails : regime.honest → process.success = false) :
    regime.Runs (ofExcept (requireFailure phase process output))
      (fun _ => process.success = false) :=
  Regime.runs_check (fun passed => ensure_eq_ok.mp passed)
    (fun honest => ensure_eq_ok.mpr (fails honest))

theorem runs_cleanupBusiness (valid : ValidCampaignId campaignId)
    (positive : 0 < sequence) (bounded : sequence ≤ u64Max) :
    regime.Runs (cleanupBusiness (planOf campaignId sequence).importName)
      (fun _ => True) := by
  refine Regime.runs_bind (P := fun _ => True)
    (Regime.runs_check (fun _ => trivial) (fun _ => ?_)) (fun _ _ => ?_)
  · exact validateEnduranceImportName_importName valid positive bounded
  · exact Regime.runs_bind (Regime.runs_perform _)
      (fun _ _ => Regime.runs_pure trivial)

theorem reported_cleanup (plan : IterationPlan) (deletedRows : UInt64) :
    Reported "cleanup-completed" (cleanupDetail plan deletedRows) := by
  refine reported_other (by decide) (by simp [samplingAction]) ?_
  rw [PlainDetail, cleanupDetail, plain_object 125]
  simp [Json.plainMembers, plain_uint64, plain_string]

theorem reported_pid {phase : String}
    (quiet : phase ≠ "" ∧ phase ≠ terminalSuccessPhase ∧
      phase ≠ terminalFailurePhase) (pid : UInt32) :
    Reported phase (pidDetail pid) := by
  refine reported_start pid quiet (by simp [pidDetail, Json.get]) ?_
  rw [PlainDetail, pidDetail, plain_object 125]
  simp [Json.plainMembers, plain_uint32]

theorem reported_process {phase : String}
    (quiet : phase ≠ "" ∧ phase ≠ terminalSuccessPhase ∧
      phase ≠ terminalFailurePhase) (process : ChildProcessResult) :
    Reported phase process.toJson :=
  reported_start process.pid quiet
    (by simp [ChildProcessResult.toJson, Json.get]) (plain_child 125 process)

theorem reported_planned (bounded : sequence ≤ u64Max) :
    Reported "iteration-planned" (planOf campaignId sequence).toJson :=
  reported_other (by decide) (by simp [samplingAction])
    (plain_plan 125 bounded)

theorem runs_executeClean (observes : Observes regime observer)
    (valid : ValidCampaignId campaignId) (positive : 0 < sequence)
    (bounded : sequence ≤ u64Max)
    (clean : scheduledFailure sequence = .clean) :
    regime.Runs
      (executeCleanIterationObserved databaseUrl campaignId sequence observer)
      (fun result => result.Follows (planOf campaignId sequence)) := by
  unfold executeCleanIterationObserved
  rw [planIteration_planOf valid positive]
  refine Regime.runs_bind (Regime.runs_pure rfl) ?_
  rintro plan rfl
  refine Regime.runs_bind (Regime.runs_check (fun _ => trivial)
    (fun _ => ensure_eq_ok.mpr clean)) (fun _ _ => ?_)
  refine Regime.runs_bind (observes _ _ (reported_planned bounded))
    (fun _ _ => ?_)
  refine Regime.runs_bind (observes _ _ (reported_other (by decide)
    (by simp [samplingAction]) (plain_strings
      [("import_name", _), ("mode", _)] (by simp))))
    (fun _ _ => ?_)
  refine Regime.runs_bind (runs_runChild observes _ _
    (reported_pid (by decide)) (reported_process (by decide))) ?_
  rintro ⟨run, runOutput⟩ ran
  refine Regime.runs_bind (runs_requireSuccess ran) (fun _ runSuccess => ?_)
  refine Regime.runs_bind (runs_runChild observes _ _
    (reported_pid (by decide)) (reported_process (by decide))) ?_
  rintro ⟨verification, verifyOutput⟩ verified
  refine Regime.runs_bind (runs_requireSuccess verified)
    (fun _ verifySuccess => ?_)
  refine Regime.runs_bind (runs_cleanupBusiness valid positive bounded)
    (fun deletedRows _ => ?_)
  refine Regime.runs_bind (observes _ _ (reported_cleanup _ deletedRows))
    (fun _ _ => ?_)
  exact Regime.runs_pure
    { planned := clean
      campaignId := rfl
      sequence := rfl
      reader := rfl
      importName := rfl
      chunkSize := rfl
      sizes := rfl
      run := runSuccess
      verification := verifySuccess }

/-! ### Crash iterations -/

theorem stripReturn_eq {text : String}
    (solid : text.toList.getLast? ≠ some '\r') : Text.stripReturn text = text := by
  rw [Text.stripReturn, Text.stripSuffix_eq_none solid (by decide)]
  rfl

theorem notMem_decimal {char : Char} (notDigit : char.isDigit = false)
    (value : Nat) : char ∉ (Text.decimal value).toList := by
  intro member
  rw [Text.decimal_eq_zeroPadded] at member
  have digit := List.all_eq_true.mp
    (Text.zeroPadded_isAsciiDigits 0 value) char member
  rw [notDigit] at digit
  cases digit

theorem isWhitespace_of_isDigit {char : Char} (digit : char.isDigit = true) :
    Text.isWhitespace char = false := by
  simp only [Char.isDigit, Bool.and_eq_true, decide_eq_true_eq] at digit
  have low : 48 ≤ char.toNat := digit.1
  have high : char.toNat ≤ 57 := digit.2
  simp only [Text.isWhitespace, Bool.or_eq_false_iff, Bool.and_eq_false_iff,
    decide_eq_false_iff_not]
  omega

/-- The first line is all digits: the second line decides. -/
theorem parseMarker_lines {expected contents boundary : String} {pid : UInt32}
    (lines : Text.firstTwoLines contents =
      some (Text.decimal pid.toNat, boundary)) :
    parseMarker expected contents =
      if boundary = expected then some (.ok { pid, boundary })
      else some (.error ("pause marker boundary mismatch: expected " ++
        s!"{expected}, got {boundary}")) := by
  have small : pid.toNat ≤ u32Max := by
    have below := pid.toNat_lt
    simp only [u32Max]
    omega
  have trimmed : Text.trim (Text.decimal pid.toNat) =
      Text.decimal pid.toNat := by
    apply Text.trim_of_solid
    intro char member
    rw [Text.decimal_eq_zeroPadded] at member
    exact isWhitespace_of_isDigit (List.all_eq_true.mp
      (Text.zeroPadded_isAsciiDigits 0 pid.toNat) char member)
  have number : Text.parseUnsigned u32Max (Text.decimal pid.toNat) =
      some pid.toNat := by
    rw [Text.decimal_eq_zeroPadded]
    exact Text.parseUnsigned_zeroPadded 0 small
  unfold parseMarker
  simp only [lines, trimmed, number, UInt32.ofNat_toNat]

theorem stripReturn_decimal (value : Nat) :
    Text.stripReturn (Text.decimal value) = Text.decimal value := by
  apply stripReturn_eq
  intro ends
  exact notMem_decimal (by decide) value (List.mem_of_getLast? ends)

theorem splitOnce_decimal (value : Nat) (rest : String) :
    Text.splitOnce (Text.decimal value ++ "\n" ++ rest) '\n' =
      some (Text.decimal value, rest) :=
  Text.splitOnce_append (Text.decimal value) rest '\n'
    (notMem_decimal (by decide) value)

/-- A second line that is not ended. -/
theorem firstTwoLines_open (value : Nat) {rest : String}
    (oneLine : '\n' ∉ rest.toList) :
    Text.firstTwoLines (Text.decimal value ++ "\n" ++ rest) =
      if rest = "" then none else some (Text.decimal value, rest) := by
  unfold Text.firstTwoLines
  rw [splitOnce_decimal]
  dsimp only
  rw [Text.splitOnce_absent oneLine, stripReturn_decimal]

theorem firstTwoLines_ended (value : Nat) {boundary : String}
    (oneLine : '\n' ∉ boundary.toList)
    (solid : boundary.toList.getLast? ≠ some '\r') :
    Text.firstTwoLines (Text.decimal value ++ "\n" ++ (boundary ++ "\n")) =
      some (Text.decimal value, boundary) := by
  have second : Text.splitOnce (boundary ++ "\n") '\n' =
      some (boundary, "") := by
    have splits := Text.splitOnce_append boundary "" '\n' oneLine
    rwa [String.append_empty] at splits
  unfold Text.firstTwoLines
  rw [splitOnce_decimal]
  dsimp only
  rw [second]
  dsimp only
  rw [stripReturn_decimal, stripReturn_eq solid]

/-- A complete marker is read back. -/
theorem parseMarker_written (pid : UInt32) {boundary : String}
    (oneLine : '\n' ∉ boundary.toList)
    (solid : boundary.toList.getLast? ≠ some '\r') :
    parseMarker boundary
        (Text.decimal pid.toNat ++ "\n" ++ boundary ++ "\n") =
      some (.ok { pid := pid, boundary := boundary }) := by
  have lines := firstTwoLines_ended pid.toNat oneLine solid
  rw [← String.append_assoc] at lines
  rw [parseMarker_lines lines, if_pos rfl]

/-- What the crash half establishes. -/
structure CrashProcessResult.Killed (crash : CrashProcessResult) : Prop where
  crashed : crash.success = false
  signal : crash.signal = some 9
  reaped : crash.reaped = true

theorem reported_crashStart (failureMode : String) (pid : UInt32) :
    Reported "workload-child-started" (.object
      [("fail_at_chunk", .ofNat canonicalCrashChunk),
        ("failure_mode", .string failureMode),
        ("pid", .ofNat pid.toNat)]) := by
  refine reported_start pid (by decide) (by simp [Json.get]) ?_
  have chunk : canonicalCrashChunk ≤ u64Max := by decide
  rw [PlainDetail, plain_object 125]
  simp [Json.plainMembers, plain_uint32, plain_string, plain_ofNat chunk]

theorem reported_marker (boundary : String) (pid : UInt32) :
    Reported "crash-marker-observed" (.object
      [("boundary", .string boundary), ("pid", .ofNat pid.toNat)]) := by
  refine reported_start pid (by decide) (by simp [Json.get]) ?_
  rw [PlainDetail, plain_object 125]
  simp [Json.plainMembers, plain_uint32, plain_string]

theorem reported_sigkill (pid : UInt32) :
    Reported "sigkill-delivered" (.object
      [("pid", .ofNat pid.toNat), ("signal", .ofNat 9)]) := by
  refine reported_start pid (by decide) (by simp [Json.get]) ?_
  have nine : 9 ≤ u64Max := by decide
  rw [PlainDetail, plain_object 125]
  simp [Json.plainMembers, plain_uint32, plain_ofNat nine]

theorem runs_crashAndReap (observes : Observes regime observer)
    (failureMode : String) {boundary : String}
    (oneLine : '\n' ∉ boundary.toList)
    (solid : boundary.toList.getLast? ≠ some '\r') :
    regime.Runs
      (crashAndReap campaignId sequence observer failureMode boundary)
      CrashProcessResult.Killed := by
  unfold crashAndReap
  refine Regime.runs_bind (P := fun _ => True) ?_ (fun path _ => ?_)
  · refine Regime.runs_bind Regime.runs_draw (fun answer known => ?_)
    cases nanos : answer.nanos with
    | none =>
        refine Regime.runs_fail (fun honest => ?_) _
        rw [known honest] at nanos
        cases nanos
    | some nonce => exact Regime.runs_pure trivial
  refine Regime.runs_bind (Regime.runs_perform _) (fun spawned known => ?_)
  refine Regime.runs_bind (P := fun _ => True) ?_ (fun pid _ => ?_)
  · refine Regime.runs_ofExcept (fun _ _ => trivial) (fun honest => ?_)
    rw [known honest]
    exact ⟨2, rfl⟩
  refine Regime.runs_bind (Regime.runs_orTerminate
    (observes _ _ (reported_crashStart failureMode pid))) (fun _ _ => ?_)
  refine Regime.runs_bind Regime.runs_draw (fun polls polled => ?_)
  refine Regime.runs_bind (P := fun marker => regime.honest →
    marker.pid = pid) (Regime.runs_orTerminate ?_) (fun marker seen => ?_)
  · have reads : regime.honest → waitForPauseMarker path boundary
        (polls.markerPolls boundary pid) =
          .ok { pid := pid, boundary := boundary } := by
      intro honest
      rw [polled honest]
      simp only [faultlessAnswer, waitForPauseMarker,
        parseMarker_written pid oneLine solid]
    refine Regime.runs_ofExcept (fun marker same honest => ?_)
      (fun honest => ⟨_, reads honest⟩)
    rw [reads honest] at same
    cases same
    rfl
  refine Regime.runs_bind (P := fun _ => True) (Regime.runs_orTerminate
    (Regime.runs_check (fun _ => trivial)
      (fun honest => ensure_eq_ok.mpr (seen honest)))) (fun _ _ => ?_)
  refine Regime.runs_bind (Regime.runs_orTerminate
    (observes _ _ (reported_marker marker.boundary marker.pid)))
    (fun _ _ => ?_)
  refine Regime.runs_bind (Regime.runs_perform _) (fun _ _ => ?_)
  refine Regime.runs_bind (Regime.runs_orTerminate
    (observes _ _ (reported_sigkill pid))) (fun _ _ => ?_)
  refine Regime.runs_bind (Regime.runs_perform _) (fun reaped answered => ?_)
  refine Regime.runs_bind (observes _ _ (reported_other (by decide)
    (by simp [samplingAction]) (plain_crashProcess 125 _))) (fun _ _ => ?_)
  refine Regime.runs_bind (Regime.runs_check (fun passed =>
    ensure_eq_ok.mp passed) (fun honest => ensure_eq_ok.mpr ?_))
    (fun _ died => ?_)
  · rw [answered honest]
    exact ⟨rfl, rfl⟩
  · exact Regime.runs_pure
      { crashed := died.1
        signal := died.2
        reaped := rfl }

/-- A contract is for a planned crash, and the honest environment shows the
state that it asks for. -/
theorem crashContract_ok {failure : EnduranceFailure}
    {failureMode boundary : String} {expectedCommits : Nat}
    (contract : crashContract sequence failure =
      .ok (failureMode, boundary, expectedCommits)) :
    failure ≠ .clean ∧ '\n' ∉ boundary.toList ∧
      boundary.toList.getLast? ≠ some '\r' ∧
      ∀ importName, requireCrashState
        (faultlessAnswer.crashState importName
          (expectedCommits * canonicalChunkSize)) expectedCommits
        (expectedCommits * canonicalChunkSize) = .ok () := by
  cases failure with
  | clean => cases contract
  | beforeCommit =>
      cases contract
      have shown : requireCrashState (faultlessAnswer.crashState ""
          ((2 : Nat) * canonicalChunkSize)) 2
          ((2 : Nat) * canonicalChunkSize) = .ok () := by decide
      exact ⟨by decide, by decide, by decide, fun _ => shown⟩
  | afterCommit =>
      cases contract
      have shown : requireCrashState (faultlessAnswer.crashState ""
          ((3 : Nat) * canonicalChunkSize)) 3
          ((3 : Nat) * canonicalChunkSize) = .ok () := by decide
      exact ⟨by decide, by decide, by decide, fun _ => shown⟩

theorem requireCrashState_ok {state : CrashStateSnapshot}
    {expectedCommits : Nat} {expectedPosition : Int}
    (passed : requireCrashState state expectedCommits expectedPosition =
      .ok ()) : recoveryRequired state.executionStatus = true := by
  simp only [requireCrashState, bind_eq_ok, ensure_eq_ok] at passed
  exact passed.choose_spec.1

theorem runs_executeCrash (observes : Observes regime observer)
    (valid : ValidCampaignId campaignId) (positive : 0 < sequence)
    (bounded : sequence ≤ u64Max)
    (crashes : scheduledFailure sequence ≠ .clean) :
    regime.Runs
      (executeCrashIterationObserved databaseUrl campaignId sequence observer)
      (fun result => result.Follows (planOf campaignId sequence)) := by
  unfold executeCrashIterationObserved
  rw [planIteration_planOf valid positive]
  refine Regime.runs_bind (Regime.runs_pure rfl) ?_
  rintro plan rfl
  refine Regime.runs_bind (P := fun contract =>
    crashContract sequence (scheduledFailure sequence) = .ok contract)
    (Regime.runs_ofExcept (fun _ same => same) (fun _ => ?_)) ?_
  · change ∃ value, crashContract sequence (scheduledFailure sequence) = _
    cases planned : scheduledFailure sequence with
    | clean => exact absurd planned crashes
    | beforeCommit => exact ⟨_, rfl⟩
    | afterCommit => exact ⟨_, rfl⟩
  rintro ⟨failureMode, boundary, expectedCommits⟩ contract
  obtain ⟨_, oneLine, solid, shows_⟩ := crashContract_ok contract
  refine Regime.runs_bind (observes _ _ (reported_planned bounded))
    (fun _ _ => ?_)
  refine Regime.runs_bind (observes _ _ (reported_other (by decide)
    (by simp [samplingAction]) ?_)) (fun _ _ => ?_)
  · have chunk : canonicalCrashChunk ≤ u64Max := by decide
    rw [PlainDetail, plain_object 125]
    simp [Json.plainMembers, plain_string, plain_ofNat chunk]
  refine Regime.runs_bind (runs_crashAndReap observes failureMode oneLine
    solid) (fun crash killed => ?_)
  refine Regime.runs_bind (P := fun postCrash => regime.honest →
    requireCrashState postCrash expectedCommits
      (expectedCommits * canonicalChunkSize) = .ok ())
    (Regime.runs_bind (Regime.runs_perform _) (fun answer answered =>
      Regime.runs_pure (fun honest => ?_))) (fun postCrash required => ?_)
  · rw [answered honest]
    exact shows_ _
  refine Regime.runs_bind (Regime.runs_check requireCrashState_ok required)
    (fun _ recoverable => ?_)
  refine Regime.runs_bind (observes _ _ (reported_other (by decide)
    (by simp [samplingAction]) (plain_snapshot 125 postCrash)))
    (fun _ _ => ?_)
  refine Regime.runs_bind (runs_runChild observes _ _
    (reported_pid (by decide)) (reported_process (by decide))) ?_
  rintro ⟨plainRelaunch, plainOutput⟩ relaunched
  refine Regime.runs_bind (runs_requireFailure relaunched)
    (fun _ plainFailure => ?_)
  refine Regime.runs_bind (runs_runChild observes _ _
    (reported_pid (by decide)) (reported_process (by decide))) ?_
  rintro ⟨recovery, recoveryOutput⟩ recovered
  refine Regime.runs_bind (runs_requireSuccess recovered)
    (fun _ recoverySuccess => ?_)
  refine Regime.runs_bind (runs_runChild observes _ _
    (reported_pid (by decide)) (reported_process (by decide))) ?_
  rintro ⟨continuation, continuationOutput⟩ continued
  refine Regime.runs_bind (runs_requireSuccess continued)
    (fun _ continuationSuccess => ?_)
  refine Regime.runs_bind (runs_runChild observes _ _
    (reported_pid (by decide)) (reported_process (by decide))) ?_
  rintro ⟨verification, verifyOutput⟩ verified
  refine Regime.runs_bind (runs_requireSuccess verified)
    (fun _ verifySuccess => ?_)
  refine Regime.runs_bind (runs_cleanupBusiness valid positive bounded)
    (fun deletedRows _ => ?_)
  refine Regime.runs_bind (observes _ _ (reported_cleanup _ deletedRows))
    (fun _ _ => ?_)
  exact Regime.runs_pure
    { planned := crashes
      campaignId := rfl
      sequence := rfl
      reader := rfl
      failure := rfl
      importName := rfl
      chunkSize := rfl
      sizes := rfl
      failAtChunk := rfl
      crashed := killed.crashed
      signal := killed.signal
      reaped := killed.reaped
      postCrash := recoverable
      plainRelaunch := plainFailure
      recovery := recoverySuccess
      continuation := continuationSuccess
      verification := verifySuccess }

/-- Whatever kind is planned, the result follows the plan. -/
theorem runs_executeRecordedExecution (observes : Observes regime observer)
    (valid : ValidCampaignId campaignId) (positive : 0 < sequence)
    (bounded : sequence ≤ u64Max) :
    regime.Runs
      (executeRecordedExecution databaseUrl campaignId sequence observer)
      (fun result => result.Follows (planOf campaignId sequence)) := by
  unfold executeRecordedExecution
  rw [planIteration_planOf valid positive]
  refine Regime.runs_bind (Regime.runs_pure rfl) ?_
  rintro plan rfl
  have crash : scheduledFailure sequence ≠ .clean → regime.Runs
      (do
        let result ← executeCrashIterationObserved databaseUrl campaignId
          sequence observer
        return RecordedExecutionResult.crash result)
      (fun result => result.Follows (planOf campaignId sequence)) :=
    fun crashes => Regime.runs_bind
      (runs_executeCrash observes valid positive bounded crashes)
      (fun _ follows => Regime.runs_pure follows)
  cases planned : scheduledFailure sequence with
  | clean =>
      rw [show (planOf campaignId sequence).failure = .clean
        from planned]
      exact Regime.runs_bind
        (runs_executeClean observes valid positive bounded planned)
        (fun _ follows => Regime.runs_pure follows)
  | beforeCommit =>
      rw [show (planOf campaignId sequence).failure = .beforeCommit
        from planned]
      exact crash (by rw [planned]; decide)
  | afterCommit =>
      rw [show (planOf campaignId sequence).failure = .afterCommit
        from planned]
      exact crash (by rw [planned]; decide)

end Orchestration

end Endurance
