/-
The decorators against the objects that they wrap: in every run they change
the result of a call only where the failpoint says so.
-/

import OxideWorkloads.Failpoint.Decorators

namespace Failpoint

open Foundation

variable {F : Framework} {Transaction σ Action ε α : Type}

/-! ### Failpoints -/

/-- The attempt at which a failpoint fires, the side of the inner call on
which it does, and whether the process stops there. -/
structure Injection where
  attempt : Nat
  beforeWrite : Bool
  duringWrite : Bool
  afterCommit : Bool
  halts : Bool

def Injection.outcome (injection : Injection) (error : ε) : Outcome ε α :=
  if injection.halts then .killed else .error error

/-- The pipeline as the inner objects see it. -/
def plain (pipeline :
    Pipeline (FailingChunkTransaction Transaction Action) (World σ)) :
    Pipeline Transaction σ :=
  ⟨pipeline.current.map (fun transaction => transaction.inner),
    pipeline.state.inner⟩

/-- The call does not reach the inner writer if the failpoint fires. -/
def Injection.suppresses (injection : Injection) : Response F → Bool
  | .wrote _ => injection.beforeWrite
  | _ => false

/-- The failpoint fires in a call that the inner objects would answer so. -/
def Injection.strikes (injection : Injection) : Response F → Bool
  | .wrote outcome =>
      injection.beforeWrite || (injection.duringWrite && outcome.isOk)
  | .committed outcome => injection.afterCommit && outcome.isOk
  | _ => false

def Injection.injected (injection : Injection) : Response F → Response F
  | .wrote _ => .wrote (injection.outcome F.transientInfrastructure)
  | .committed _ => .committed (injection.outcome F.commitOutcomeUnknown)
  | other => other

/-- The failpoint fires in this call of this attempt. -/
def Injection.fires (injection : Injection)
    (inner : Components F Transaction σ) (attempt : Nat) (call : Call F)
    (pipeline : Pipeline Transaction σ) : Bool :=
  attempt == injection.attempt &&
    injection.strikes (step inner call pipeline).1

/-- The decorated call is the inner one, or the injected failure. -/
structure Exactly (injection : Injection)
    (inner : Components F Transaction σ)
    (decorated :
      Components F (FailingChunkTransaction Transaction Action) (World σ))
    (attempt : Nat) (call : Call F)
    (pipeline :
      Pipeline (FailingChunkTransaction Transaction Action) (World σ)) :
    Prop where
  passes : injection.fires inner attempt call (plain pipeline) = false →
    (step decorated call pipeline).1 = (step inner call (plain pipeline)).1 ∧
      plain (step decorated call pipeline).2 =
        (step inner call (plain pipeline)).2 ∧
      (step decorated call pipeline).2.state.fired = pipeline.state.fired
  strikes : injection.fires inner attempt call (plain pipeline) = true →
    (step decorated call pipeline).1 =
        injection.injected (step inner call (plain pipeline)).1 ∧
      plain (step decorated call pipeline).2 =
        (if injection.suppresses (step inner call (plain pipeline)).1 then
          plain pipeline
        else (step inner call (plain pipeline)).2) ∧
      (step decorated call pipeline).2.state.fired = true

/-! ### What each operation does -/

/-- The failpoint has fired, and nothing else has changed. -/
structure Struck (before after : World σ) : Prop where
  inner : after.inner = before.inner
  chunkOrdinal : after.chunkOrdinal = before.chunkOrdinal
  fired : after.fired = true

/-- An inner program that is suppressed, or whose success is replaced. -/
def Intercepted (injection : Injection) (error : ε)
    (suppressed replaced : Bool) (program : CrashRun σ ε α)
    (world : World σ) (result : Outcome ε α × World σ) : Prop :=
  if suppressed = true then
    result.1 = injection.outcome error ∧ Struck world result.2
  else if (replaced && (program world.inner).1.isOk) = true then
    result.1 = injection.outcome error ∧
      Struck (inside program world).2 result.2
  else result = inside program world

/-- A counted attempt. -/
def World.counted (world : World σ) : World σ :=
  { world with chunkOrdinal := world.chunkOrdinal + 1 }

def Injection.hits (injection : Injection) (world : World σ) : Bool :=
  world.chunkOrdinal.toNat == injection.attempt

/-- A transaction is begun, counted and wrapped. -/
def Wrapped (injection : Injection) (action : Action)
    (begins : CrashRun σ F.TransactionError Transaction) (world : World σ)
    (result : Outcome F.TransactionError
      (FailingChunkTransaction Transaction Action) × World σ) : Prop :=
  result.2 = (inside begins world.counted).2 ∧
    match (begins world.inner).1 with
    | .ok transaction => ∃ wrapped, result.1 = .ok wrapped ∧
        wrapped.inner = transaction ∧ wrapped.action = action ∧
        wrapped.shouldFire =
          (injection.afterCommit && injection.hits world.counted)
    | .error error => result.1 = .error error
    | .killed => result.1 = .killed

/-- The decorated objects, operation by operation. -/
structure Decorates (injection : Injection) (action : Action)
    (inner : Components F Transaction σ)
    (decorated :
      Components F (FailingChunkTransaction Transaction Action) (World σ)) :
    Prop where
  write : ∀ items context world,
    Intercepted injection F.transientInfrastructure
      (injection.hits world && injection.beforeWrite)
      (injection.hits world && injection.duringWrite)
      (inner.write items context) world (decorated.write items context world)
  beginUnbound : ∀ world,
    Wrapped injection action inner.beginUnbound world (decorated.beginUnbound world)
  beginFor : ∀ context world, Wrapped injection action
    (inner.beginFor context) world (decorated.beginFor context world)
  commit : ∀ transaction counts fault world, transaction.action = action →
    Intercepted injection F.commitOutcomeUnknown false transaction.shouldFire
      (inner.commit transaction.inner counts fault) world
      (decorated.commit transaction counts fault world)
  commitWithComponentState : ∀ transaction counts fault state world,
    transaction.action = action → Intercepted injection F.commitOutcomeUnknown false transaction.shouldFire
      (inner.commitWithComponentState transaction.inner counts fault state)
      world
      (decorated.commitWithComponentState transaction counts fault state world)
  rollback : ∀ transaction, decorated.rollback transaction =
    inside (inner.rollback transaction.inner)
  inheritedProgress : ∀ context, decorated.inheritedProgress context =
    inside (inner.inheritedProgress context)
  inheritedComponentState : ∀ context,
    decorated.inheritedComponentState context =
      inside (inner.inheritedComponentState context)

/-! ### One call -/

section Calls

variable {injection : Injection} {action : Action}
  {inner : Components F Transaction σ}
  {decorated :
    Components F (FailingChunkTransaction Transaction Action) (World σ)}
  {pipeline : Pipeline (FailingChunkTransaction Transaction Action) (World σ)}

/-- The open transaction belongs to the attempt that is counted last. -/
def Armed (injection : Injection) (action : Action)
    (pipeline :
      Pipeline (FailingChunkTransaction Transaction Action) (World σ)) :
    Prop :=
  ∀ transaction, pipeline.current = some transaction →
    transaction.action = action ∧ transaction.shouldFire =
      (injection.afterCommit && injection.hits pipeline.state)

def Call.isBegin : Call F → Bool
  | .beginUnbound => true
  | .beginFor _ => true
  | _ => false

/-- What a call leaves for the next one. -/
structure Advances (injection : Injection) (action : Action) (call : Call F)
    (before after :
      Pipeline (FailingChunkTransaction Transaction Action) (World σ)) :
    Prop where
  armed : Armed injection action after
  chunkOrdinal : after.state.chunkOrdinal =
    if call.isBegin then before.state.chunkOrdinal + 1
    else before.state.chunkOrdinal

theorem Intercepted.passes {error : ε} {suppressed replaced : Bool}
    {program : CrashRun σ ε α} {world : World σ}
    {result : Outcome ε α × World σ}
    (intercepted : Intercepted injection error suppressed replaced program
      world result)
    (quiet : (suppressed || (replaced && (program world.inner).1.isOk)) =
      false) : result = inside program world := by
  obtain ⟨notSuppressed, notReplaced⟩ := Bool.or_eq_false_iff.mp quiet
  unfold Intercepted at intercepted
  rw [if_neg (Bool.eq_false_iff.mp notSuppressed),
    if_neg (Bool.eq_false_iff.mp notReplaced)] at intercepted
  exact intercepted

theorem Intercepted.strikes {error : ε} {suppressed replaced : Bool}
    {program : CrashRun σ ε α} {world : World σ}
    {result : Outcome ε α × World σ}
    (intercepted : Intercepted injection error suppressed replaced program
      world result)
    (loud : (suppressed || (replaced && (program world.inner).1.isOk)) =
      true) :
    result.1 = injection.outcome error ∧
      Struck (if suppressed then world else (inside program world).2)
        result.2 := by
  unfold Intercepted at intercepted
  cases suppressed with
  | true => exact intercepted
  | false =>
      rw [Bool.false_or] at loud
      rw [if_neg Bool.false_ne_true, if_pos loud] at intercepted
      exact intercepted

theorem Intercepted.chunkOrdinal {error : ε} {suppressed replaced : Bool}
    {program : CrashRun σ ε α} {world : World σ}
    {result : Outcome ε α × World σ}
    (intercepted : Intercepted injection error suppressed replaced program
      world result) : result.2.chunkOrdinal = world.chunkOrdinal := by
  cases loud : suppressed || (replaced && (program world.inner).1.isOk) with
  | false =>
      rw [intercepted.passes loud]
      rfl
  | true =>
      rw [(intercepted.strikes loud).2.chunkOrdinal]
      cases suppressed <;> rfl

theorem started_exact {begins : CrashRun σ F.TransactionError Transaction}
    {wrapping : CrashRun (World σ) F.TransactionError
      (FailingChunkTransaction Transaction Action)}
    {world : World σ}
    (wraps : Wrapped injection action begins world (wrapping world)) :
    (started (F := F) wrapping world).1 =
        (started (F := F) begins world.inner).1 ∧
      plain (started (F := F) wrapping world).2 =
        (started (F := F) begins world.inner).2 ∧
      (started (F := F) wrapping world).2.state =
        (inside begins world.counted).2 ∧
      Armed injection action (started (F := F) wrapping world).2 := by
  obtain ⟨after, outcome⟩ := wraps
  have nothing : ∀ state : World σ, Armed injection action
      (⟨none, state⟩ :
        Pipeline (FailingChunkTransaction Transaction Action) (World σ)) := by
    intro state transaction present
    cases present
  unfold started
  cases inners : begins world.inner with
  | mk innerOutcome innerAfter =>
      cases wrappings : wrapping world with
      | mk wrappedOutcome wrappedAfter =>
          rw [wrappings] at after outcome
          rw [inners] at outcome
          simp only at after
          have state : wrappedAfter.inner = innerAfter := by
            rw [after, inside]
            exact congrArg Prod.snd inners
          cases innerOutcome with
          | ok transaction =>
              obtain ⟨wrapped, same, innerSame, sameAction, shouldFire⟩ := outcome
              simp only at same
              subst same
              simp only [plain, Option.map_some, innerSame, state, true_and]
              constructor
              · exact after
              intro other present
              cases present
              rw [shouldFire, after]
              exact ⟨sameAction, rfl⟩
          | error error =>
              simp only at outcome
              subst outcome
              simp only [plain, Option.map_none, state, true_and]
              exact ⟨after, nothing _⟩
          | killed =>
              simp only at outcome
              subst outcome
              simp only [plain, Option.map_none, state, true_and]
              exact ⟨after, nothing _⟩

/-- A begun transaction: the failpoint never fires in this call. -/
theorem exactly_started {call : Call F} {attempt : Nat}
    {begins : CrashRun σ F.TransactionError Transaction}
    {wrapping : CrashRun (World σ) F.TransactionError
      (FailingChunkTransaction Transaction Action)}
    (begun : call.isBegin = true)
    (plainly : step inner call (plain pipeline) =
      started begins pipeline.state.inner)
    (wrapped : step decorated call pipeline =
      started wrapping pipeline.state)
    (wraps : Wrapped injection action begins pipeline.state
      (wrapping pipeline.state)) :
    Exactly injection inner decorated attempt call pipeline ∧
      Advances injection action call pipeline (step decorated call pipeline).2 := by
  obtain ⟨response, after, state, armed⟩ := started_exact (F := F) wraps
  have silent : injection.strikes (step inner call (plain pipeline)).1 =
      false := by
    rw [plainly, started]
    cases begins pipeline.state.inner with
    | mk outcome after => cases outcome <;> rfl
  constructor
  · constructor
    · intro _
      rw [plainly, wrapped, state]
      exact ⟨response, after, rfl⟩
    · intro fires
      rw [Injection.fires, silent, Bool.and_false] at fires
      cases fires
  · constructor
    · rw [wrapped]
      exact armed
    · rw [wrapped, state, begun, if_pos rfl]
      rfl

/-- A call that reaches the inner objects through an intercepted program. -/
structure Goes (inner : Components F Transaction σ)
    (decorated :
      Components F (FailingChunkTransaction Transaction Action) (World σ))
    (call : Call F)
    (pipeline :
      Pipeline (FailingChunkTransaction Transaction Action) (World σ))
    (next : Option (FailingChunkTransaction Transaction Action))
    (tag : Outcome ε α → Response F) (program : CrashRun σ ε α)
    (result : Outcome ε α × World σ) : Prop where
  begins : call.isBegin = false
  plainly : step inner call (plain pipeline) =
    (tag (program pipeline.state.inner).1,
      ⟨next.map (fun transaction => transaction.inner),
        (program pipeline.state.inner).2⟩)
  wrapped : step decorated call pipeline = (tag result.1, ⟨next, result.2⟩)
  current : ∀ transaction, next = some transaction →
    pipeline.current = some transaction

theorem Goes.advances {call : Call F}
    {next : Option (FailingChunkTransaction Transaction Action)}
    {tag : Outcome ε α → Response F} {program : CrashRun σ ε α}
    {result : Outcome ε α × World σ}
    (goes : Goes inner decorated call pipeline next tag program result)
    (armed : Armed injection action pipeline)
    (same : result.2.chunkOrdinal = pipeline.state.chunkOrdinal) :
    Advances injection action call pipeline (step decorated call pipeline).2 := by
  rw [goes.wrapped]
  constructor
  · intro transaction present
    have open_ := armed transaction (goes.current transaction present)
    rw [open_.2, Injection.hits, Injection.hits, same]
    exact ⟨open_.1, rfl⟩
  · rw [goes.begins, if_neg Bool.false_ne_true]
    exact same

/-- A call that is passed on as it is. -/
theorem Goes.relayed {call : Call F} {attempt : Nat}
    {next : Option (FailingChunkTransaction Transaction Action)}
    {tag : Outcome ε α → Response F} {program : CrashRun σ ε α}
    (goes : Goes inner decorated call pipeline next tag program
      (inside program pipeline.state))
    (armed : Armed injection action pipeline)
    (silent : ∀ outcome, injection.strikes (tag outcome) = false) :
    Exactly injection inner decorated attempt call pipeline ∧
      Advances injection action call pipeline (step decorated call pipeline).2 := by
  constructor
  · constructor
    · intro _
      rw [goes.plainly, goes.wrapped]
      exact ⟨rfl, rfl, rfl⟩
    · intro fires
      rw [Injection.fires, goes.plainly, silent, Bool.and_false] at fires
      cases fires
  · exact goes.advances armed rfl

/-- A call whose success the failpoint may replace. -/
theorem Goes.intercepted {call : Call F} {attempt : Nat}
    {next : Option (FailingChunkTransaction Transaction Action)}
    {tag : Outcome ε α → Response F} {program : CrashRun σ ε α}
    {result : Outcome ε α × World σ} {error : ε} {suppressed replaced : Bool}
    (goes : Goes inner decorated call pipeline next tag program result)
    (armed : Armed injection action pipeline)
    (intercepted : Intercepted injection error suppressed replaced program
      pipeline.state result)
    (fires : injection.fires inner attempt call (plain pipeline) =
      (suppressed || (replaced && (program pipeline.state.inner).1.isOk)))
    (injected : ∀ outcome,
      injection.injected (tag outcome) = tag (injection.outcome error))
    (suppresses : injection.fires inner attempt call (plain pipeline) = true →
      ∀ outcome, injection.suppresses (tag outcome) = suppressed)
    (stays : suppressed = true → next = pipeline.current) :
    Exactly injection inner decorated attempt call pipeline ∧
      Advances injection action call pipeline (step decorated call pipeline).2 := by
  constructor
  · constructor
    · intro quiet
      rw [fires] at quiet
      rw [goes.plainly, goes.wrapped, intercepted.passes quiet]
      exact ⟨rfl, rfl, rfl⟩
    · intro loud
      have side := suppresses loud
      rw [fires] at loud
      obtain ⟨outcome, struck⟩ := intercepted.strikes loud
      rw [goes.plainly, goes.wrapped, injected, side, outcome]
      constructor
      · rfl
      constructor
      · cases suppressed with
        | true =>
            rw [stays rfl]
            exact congrArg (Pipeline.mk _) struck.inner
        | false => exact congrArg (Pipeline.mk _) struck.inner
      · exact struck.fired
  · exact goes.advances armed intercepted.chunkOrdinal

/-- Without an open transaction there is nothing to end. -/
theorem exactly_absent {call : Call F} {attempt : Nat}
    (begins : call.isBegin = false)
    (plainly : step inner call (plain pipeline) =
      (.noTransaction, plain pipeline))
    (wrapped : step decorated call pipeline = (.noTransaction, pipeline))
    (armed : Armed injection action pipeline) :
    Exactly injection inner decorated attempt call pipeline ∧
      Advances injection action call pipeline (step decorated call pipeline).2 := by
  constructor
  · constructor
    · intro _
      rw [plainly, wrapped]
      exact ⟨rfl, rfl, rfl⟩
    · intro fires
      rw [Injection.fires, plainly] at fires
      exact absurd (Bool.and_eq_true_iff.mp fires).2 Bool.false_ne_true
  · rw [wrapped]
    constructor
    · exact armed
    · rw [begins, if_neg Bool.false_ne_true]

theorem Goes.committed {call : Call F}
    {transaction : FailingChunkTransaction Transaction Action}
    {program : CrashRun σ F.TransactionError F.Receipt}
    {result : Outcome F.TransactionError F.Receipt × World σ}
    (goes : Goes inner decorated call pipeline none .committed program result)
    (armed : Armed injection action pipeline)
    (present : pipeline.current = some transaction)
    (intercepted : Intercepted injection F.commitOutcomeUnknown false
      transaction.shouldFire program pipeline.state result) :
    Exactly injection inner decorated pipeline.state.chunkOrdinal.toNat call
        pipeline ∧
      Advances injection action call pipeline (step decorated call pipeline).2 := by
  have fires : injection.fires inner pipeline.state.chunkOrdinal.toNat call
      (plain pipeline) = (false || (transaction.shouldFire &&
        (program pipeline.state.inner).1.isOk)) := by
    rw [Injection.fires, goes.plainly, (armed transaction present).2,
      Injection.hits, Bool.false_or, Bool.and_comm injection.afterCommit,
      Bool.and_assoc]
    rfl
  apply goes.intercepted armed intercepted fires (fun _ => rfl)
    (fun _ _ => rfl)
  intro impossible
  cases impossible

/-- Every call of a pipeline, whatever came before it. -/
theorem step_exact (decorates : Decorates injection action inner decorated)
    (armed : Armed injection action pipeline) (call : Call F) :
    Exactly injection inner decorated pipeline.state.chunkOrdinal.toNat call
        pipeline ∧
      Advances injection action call pipeline (step decorated call pipeline).2 := by
  have ended : ∀ transaction : FailingChunkTransaction Transaction Action,
      none = some transaction → pipeline.current = some transaction := by
    intro transaction impossible
    cases impossible
  cases call with
  | beginUnbound =>
      exact exactly_started rfl rfl rfl (decorates.beginUnbound pipeline.state)
  | beginFor context =>
      exact exactly_started rfl rfl rfl
        (decorates.beginFor context pipeline.state)
  | write items context =>
      have goes : Goes inner decorated (.write items context) pipeline
          pipeline.current .wrote (inner.write items context)
          (decorated.write items context pipeline.state) :=
        ⟨rfl, rfl, rfl, fun _ present => present⟩
      have fires : injection.fires inner pipeline.state.chunkOrdinal.toNat
          (.write items context) (plain pipeline) =
            (injection.hits pipeline.state && injection.beforeWrite ||
              injection.hits pipeline.state && injection.duringWrite &&
                (inner.write items context pipeline.state.inner).1.isOk) := by
        rw [Injection.fires, goes.plainly, Bool.and_assoc,
          ← Bool.and_or_distrib_left]
        rfl
      apply goes.intercepted armed
        (decorates.write items context pipeline.state) fires (fun _ => rfl)
      · intro loud _
        have hit := (Bool.and_eq_true_iff.mp loud).1
        rw [Injection.hits, hit, Bool.true_and]
        rfl
      · intro _
        rfl
  | commit counts fault =>
      cases present : pipeline.current with
      | none =>
          apply exactly_absent rfl _ _ armed
          · simp only [step, plain, present, Option.map_none]
          · simp only [step, present]
      | some transaction =>
          have goes : Goes inner decorated (.commit counts fault) pipeline none
              .committed (inner.commit transaction.inner counts fault)
              (decorated.commit transaction counts fault pipeline.state) := by
            refine ⟨rfl, ?_, ?_, ended⟩
            · simp only [step, plain, present, Option.map_some, Option.map_none]
            · simp only [step, present]
          exact goes.committed armed present
            (decorates.commit transaction counts fault pipeline.state
              (armed transaction present).1)
  | commitWithComponentState counts fault state =>
      cases present : pipeline.current with
      | none =>
          apply exactly_absent rfl _ _ armed
          · simp only [step, plain, present, Option.map_none]
          · simp only [step, present]
      | some transaction =>
          have goes : Goes inner decorated
              (.commitWithComponentState counts fault state) pipeline none
              .committed
              (inner.commitWithComponentState transaction.inner counts fault
                state)
              (decorated.commitWithComponentState transaction counts fault
                state pipeline.state) := by
            refine ⟨rfl, ?_, ?_, ended⟩
            · simp only [step, plain, present, Option.map_some, Option.map_none]
            · simp only [step, present]
          exact goes.committed armed present
            (decorates.commitWithComponentState transaction counts fault state
              pipeline.state (armed transaction present).1)
  | rollback =>
      cases present : pipeline.current with
      | none =>
          apply exactly_absent rfl _ _ armed
          · simp only [step, plain, present, Option.map_none]
          · simp only [step, present]
      | some transaction =>
          have goes : Goes inner decorated .rollback pipeline none .rolledBack
              (inner.rollback transaction.inner)
              (inside (inner.rollback transaction.inner) pipeline.state) := by
            refine ⟨rfl, ?_, ?_, ended⟩
            · simp only [step, plain, present, Option.map_some, Option.map_none]
            · simp only [step, present, decorates.rollback]
          exact goes.relayed armed (fun _ => rfl)
  | inheritedProgress context =>
      have goes : Goes inner decorated (.inheritedProgress context) pipeline
          pipeline.current .progress (inner.inheritedProgress context)
          (inside (inner.inheritedProgress context) pipeline.state) := by
        refine ⟨rfl, rfl, ?_, fun _ present => present⟩
        simp only [step, decorates.inheritedProgress]
      exact goes.relayed armed (fun _ => rfl)
  | inheritedComponentState context =>
      have goes : Goes inner decorated (.inheritedComponentState context)
          pipeline pipeline.current .componentState
          (inner.inheritedComponentState context)
          (inside (inner.inheritedComponentState context) pipeline.state) := by
        refine ⟨rfl, rfl, ?_, fun _ present => present⟩
        simp only [step, decorates.inheritedComponentState]
      exact goes.relayed armed (fun _ => rfl)

end Calls

/-! ### Whole runs -/

def begins (calls : List (Call F)) : Nat := calls.countP Call.isBegin

/-- Every call was answered. -/
def Answered (components : Components F Transaction σ)
    (calls : List (Call F)) (start : Pipeline Transaction σ) : Prop :=
  ∀ response ∈ (run components calls start).1, response.halted = false

section Runs

variable {components : Components F Transaction σ}
  {start : Pipeline Transaction σ} {call : Call F} {calls : List (Call F)}

theorem run_halted
    (halted : (step components call start).1.halted = true) :
    run components (call :: calls) start =
      ([(step components call start).1], (step components call start).2) := by
  rw [run]
  exact if_pos halted

theorem run_next
    (goesOn : (step components call start).1.halted = false) :
    run components (call :: calls) start =
      ((step components call start).1 ::
          (run components calls (step components call start).2).1,
        (run components calls (step components call start).2).2) := by
  rw [run]
  exact if_neg (Bool.eq_false_iff.mp goesOn)

theorem answered_cons :
    Answered components (call :: calls) start ↔
      (step components call start).1.halted = false ∧
        Answered components calls (step components call start).2 := by
  cases halted : (step components call start).1.halted with
  | true =>
      rw [Answered, run_halted halted]
      simp [halted]
  | false =>
      rw [Answered, run_next halted, List.forall_mem_cons, halted]
      rfl

end Runs

section Injected

variable {injection : Injection} {action : Action}
  {inner : Components F Transaction σ}
  {decorated :
    Components F (FailingChunkTransaction Transaction Action) (World σ)}
  {start : Pipeline (FailingChunkTransaction Transaction Action) (World σ)}

/-- Where the pipeline stands after calls that were answered. -/
theorem run_advances (decorates : Decorates injection action inner decorated)
    (armed : Armed injection action start) {calls : List (Call F)}
    (answered : Answered decorated calls start) :
    Armed injection action (run decorated calls start).2 ∧
      (run decorated calls start).2.state.chunkOrdinal =
        start.state.chunkOrdinal + UInt32.ofNat (begins calls) := by
  induction calls generalizing start with
  | nil =>
      constructor
      · exact armed
      · exact (UInt32.add_zero _).symm
  | cons call rest ih =>
      obtain ⟨goesOn, later⟩ := answered_cons.mp answered
      have advances := (step_exact decorates armed call).2
      obtain ⟨stillArmed, ordinal⟩ := ih advances.armed later
      rw [run_next goesOn]
      constructor
      · exact stillArmed
      · rw [ordinal, advances.chunkOrdinal, begins, begins, List.countP_cons]
        cases call.isBegin with
        | true =>
            rw [if_pos rfl, if_pos rfl, UInt32.add_assoc, UInt32.ofNat_add,
              UInt32.add_comm 1]
            rfl
        | false =>
            rw [if_neg Bool.false_ne_true, if_neg Bool.false_ne_true,
              Nat.add_zero]

theorem step_fired (decorates : Decorates injection action inner decorated)
    (armed : Armed injection action start) (call : Call F) :
    (step decorated call start).2.state.fired = true ↔
      start.state.fired = true ∨
        injection.fires inner start.state.chunkOrdinal.toNat call
          (plain start) = true := by
  have exactly := (step_exact decorates armed call).1
  cases fires : injection.fires inner start.state.chunkOrdinal.toNat call
      (plain start) with
  | true =>
      rw [(exactly.strikes fires).2.2]
      simp only [or_true]
  | false =>
      rw [(exactly.passes fires).2.2]
      simp only [Bool.false_eq_true, or_false]

/-- Some call of these is reached, and the failpoint fires in it. -/
def FiresWithin (injection : Injection) (inner : Components F Transaction σ)
    (decorated :
      Components F (FailingChunkTransaction Transaction Action) (World σ))
    (calls : List (Call F))
    (start :
      Pipeline (FailingChunkTransaction Transaction Action) (World σ)) :
    Prop :=
  ∃ before call rest, calls = before ++ call :: rest ∧
    Answered decorated before start ∧
      injection.fires inner
        (run decorated before start).2.state.chunkOrdinal.toNat call
        (plain (run decorated before start).2) = true

theorem firesWithin_cons {call : Call F} {calls : List (Call F)} :
    FiresWithin injection inner decorated (call :: calls) start ↔
      injection.fires inner start.state.chunkOrdinal.toNat call
          (plain start) = true ∨
        ((step decorated call start).1.halted = false ∧
          FiresWithin injection inner decorated calls
            (step decorated call start).2) := by
  constructor
  · intro within
    obtain ⟨before, other, rest, split, answered, fires⟩ := within
    cases before with
    | nil =>
        obtain ⟨sameCall, _⟩ := List.cons.inj split
        subst sameCall
        exact Or.inl fires
    | cons first before =>
        obtain ⟨sameCall, sameRest⟩ := List.cons.inj split
        subst sameCall
        obtain ⟨goesOn, later⟩ := answered_cons.mp answered
        rw [run_next goesOn] at fires
        exact Or.inr ⟨goesOn, before, other, rest, sameRest, later, fires⟩
  · intro either
    rcases either with fires | further
    · refine ⟨[], call, calls, rfl, ?_, fires⟩
      intro response member
      cases member
    · obtain ⟨goesOn, before, other, rest, split, answered, fires⟩ := further
      refine ⟨call :: before, other, rest, congrArg (List.cons call) split,
        answered_cons.mpr ⟨goesOn, answered⟩, ?_⟩
      rw [run_next goesOn]
      exact fires

/-- The flag is set exactly if the failpoint fired in some call. -/
theorem run_fired (decorates : Decorates injection action inner decorated)
    (armed : Armed injection action start) (calls : List (Call F)) :
    (run decorated calls start).2.state.fired = true ↔
      start.state.fired = true ∨
        FiresWithin injection inner decorated calls start := by
  induction calls generalizing start with
  | nil =>
      constructor
      · exact Or.inl
      · intro either
        rcases either with before | within
        · exact before
        · obtain ⟨before, call, rest, split, _⟩ := within
          exact absurd split.symm (by simp)
  | cons call rest ih =>
      have first := step_fired decorates armed call
      have advances := (step_exact decorates armed call).2
      rw [firesWithin_cons]
      cases halted : (step decorated call start).1.halted with
      | true =>
          rw [run_halted halted]
          simp only [Bool.true_eq_false, false_and, or_false]
          exact first
      | false =>
          rw [run_next halted, ih advances.armed, first, or_assoc]
          simp only [true_and]

/-- In every run from the beginning the failpoint changes a call only in its
attempt, and the flag tells whether it did. -/
def FiresOnlyAt (injection : Injection) (inner : Components F Transaction σ)
    (decorated :
      Components F (FailingChunkTransaction Transaction Action) (World σ)) :
    Prop :=
  ∀ (world : World σ) (calls : List (Call F)),
    world.chunkOrdinal = 0 → world.fired = false →
      begins calls < 4294967296 →
        (∀ before call rest, calls = before ++ call :: rest →
          Answered decorated before ⟨none, world⟩ →
            Exactly injection inner decorated (begins before) call
              (run decorated before ⟨none, world⟩).2) ∧
        ((run decorated calls ⟨none, world⟩).2.state.fired = true ↔
          ∃ before call rest, calls = before ++ call :: rest ∧
            Answered decorated before ⟨none, world⟩ ∧
              injection.fires inner (begins before) call
                (plain (run decorated before ⟨none, world⟩).2) = true)

theorem Decorates.firesOnlyAt (decorates : Decorates injection action inner decorated) :
    FiresOnlyAt injection inner decorated := by
  intro world calls zero unfired bounded
  have armed : Armed injection action
      (⟨none, world⟩ :
        Pipeline (FailingChunkTransaction Transaction Action) (World σ)) := by
    intro transaction impossible
    cases impossible
  have counted : ∀ before call rest, calls = before ++ call :: rest →
      Answered decorated before ⟨none, world⟩ →
        (run decorated before ⟨none, world⟩).2.state.chunkOrdinal.toNat =
          begins before := by
    intro before call rest split answered
    have ordinal := (run_advances decorates armed answered).2
    have fewer : begins before ≤ begins calls := by
      rw [split, begins, begins, List.countP_append]
      exact Nat.le_add_right _ _
    rw [ordinal, zero, UInt32.zero_add, UInt32.toNat_ofNat',
      Nat.mod_eq_of_lt (Nat.lt_of_le_of_lt fewer bounded)]
  constructor
  · intro before call rest split answered
    have exactly := (step_exact decorates
      (run_advances decorates armed answered).1 call).1
    rw [counted before call rest split answered] at exactly
    exact exactly
  · rw [run_fired decorates armed calls, unfired]
    simp only [Bool.false_eq_true, false_or]
    constructor
    · intro within
      obtain ⟨before, call, rest, split, answered, fires⟩ := within
      rw [counted before call rest split answered] at fires
      exact ⟨before, call, rest, split, answered, fires⟩
    · intro within
      obtain ⟨before, call, rest, split, answered, fires⟩ := within
      rw [← counted before call rest split answered] at fires
      exact ⟨before, call, rest, split, answered, fires⟩

/-- The decorated objects cannot be told from the inner ones by any calls. -/
def Transparent (inner : Components F Transaction σ)
    (decorated :
      Components F (FailingChunkTransaction Transaction Action) (World σ)) :
    Prop :=
  ∀ (world : World σ) (calls : List (Call F)),
    (run decorated calls ⟨none, world⟩).1 =
        (run inner calls ⟨none, world.inner⟩).1 ∧
      plain (run decorated calls ⟨none, world⟩).2 =
        (run inner calls ⟨none, world.inner⟩).2 ∧
      (run decorated calls ⟨none, world⟩).2.state.fired = world.fired

theorem run_transparent (decorates : Decorates injection action inner decorated)
    (never : ∀ response : Response F, injection.strikes response = false)
    (armed : Armed injection action start) (calls : List (Call F)) :
    (run decorated calls start).1 = (run inner calls (plain start)).1 ∧
      plain (run decorated calls start).2 =
        (run inner calls (plain start)).2 ∧
      (run decorated calls start).2.state.fired = start.state.fired := by
  induction calls generalizing start with
  | nil => exact ⟨rfl, rfl, rfl⟩
  | cons call rest ih =>
      obtain ⟨exactly, advances⟩ := step_exact decorates armed call
      have quiet : injection.fires inner start.state.chunkOrdinal.toNat call
          (plain start) = false := by
        rw [Injection.fires, never, Bool.and_false]
      obtain ⟨response, after, unfired⟩ := exactly.passes quiet
      cases halted : (step decorated call start).1.halted with
      | true =>
          rw [run_halted halted, run_halted (response ▸ halted), response]
          exact ⟨rfl, after, unfired⟩
      | false =>
          obtain ⟨responses, last, flag⟩ := ih advances.armed
          rw [run_next halted, run_next (response ▸ halted), ← after, response,
            responses]
          exact ⟨rfl, last, flag.trans unfired⟩

end Injected

end Failpoint
