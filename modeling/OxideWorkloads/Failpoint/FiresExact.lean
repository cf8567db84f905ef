/-
The decorators of both workloads fire only at the chosen attempt.
-/

import OxideWorkloads.Failpoint.DecoratorsExact

namespace Failpoint

open Foundation

variable {F : Framework} {Transaction σ ε α β : Type}

/-- The rest of a program behind an inner call. -/
theorem inside_bind (program : CrashRun σ ε α)
    (next : α → CrashRun (World σ) ε β) (world : World σ) :
    (inside program >>= next) world =
      match (program world.inner).1 with
      | .ok value => next value (inside program world).2
      | .error error => (.error error, (inside program world).2)
      | .killed => (.killed, (inside program world).2) := by
  change CrashRun.bind (inside program) next world = _
  unfold CrashRun.bind inside
  cases program world.inner with
  | mk outcome after => cases outcome <;> rfl

/-- The attempt that a new transaction belongs to. -/
theorem nextOrdinal_bind (next : UInt32 → CrashRun (World σ) ε α)
    (world : World σ) :
    (nextOrdinal >>= next) world =
      next world.counted.chunkOrdinal world.counted :=
  rfl

/-- A transaction that is wrapped behind a counted attempt. -/
theorem wrapped_of_eq {Action : Type} {injection : Injection}
    {begins : CrashRun σ F.TransactionError Transaction} {action : Action}
    {shouldFire : Bool} {world : World σ}
    (fires : shouldFire =
      (injection.afterCommit && injection.hits world.counted)) :
    Wrapped injection action begins world
      ((inside begins >>= fun innerTxn =>
        (pure { inner := innerTxn, shouldFire, action } :
          CrashRun (World σ) F.TransactionError
            (FailingChunkTransaction Transaction Action))) world.counted) := by
  rw [inside_bind]
  have same : world.counted.inner = world.inner := rfl
  unfold Wrapped
  rw [same]
  cases (begins world.inner).1 with
  | ok transaction => exact ⟨rfl, _, rfl, rfl, rfl, fires⟩
  | error error => exact ⟨rfl, rfl⟩
  | killed => exact ⟨rfl, rfl⟩

/-- An inner call whose success is answered by a failure. -/
theorem intercepted_of_bind {injection : Injection} {error : ε}
    {replaced : Bool} {program : CrashRun σ ε α}
    {next : α → CrashRun (World σ) ε α} {world : World σ}
    (keeps : replaced = false → ∀ value,
      next value (inside program world).2 =
        (.ok value, (inside program world).2))
    (fails : replaced = true → ∀ value,
      (next value (inside program world).2).1 = injection.outcome error ∧
        Struck (inside program world).2
          (next value (inside program world).2).2) :
    Intercepted injection error false replaced program world
      ((inside program >>= next) world) := by
  rw [inside_bind]
  unfold Intercepted
  rw [if_neg Bool.false_ne_true]
  cases ending : (program world.inner).1 with
  | ok value =>
      cases replaced with
      | true => exact fails rfl value
      | false =>
          have kept := keeps rfl value
          rw [Bool.false_and, if_neg Bool.false_ne_true]
          exact kept.trans (Prod.ext ending.symm rfl)
  | error failure =>
      change (if (replaced && false) = true then _ else _)
      rw [Bool.and_false, if_neg Bool.false_ne_true]
      exact Prod.ext ending.symm rfl
  | killed =>
      change (if (replaced && false) = true then _ else _)
      rw [Bool.and_false, if_neg Bool.false_ne_true]
      exact Prod.ext ending.symm rfl

/-- Nothing follows an injected failure. -/
theorem injected_bind {injection : Injection} {error : ε}
    {program : CrashRun (World σ) ε α} {next : α → CrashRun (World σ) ε β}
    {world : World σ}
    (failed : (program world).1 = injection.outcome error ∧
      Struck world (program world).2) :
    ((program >>= next) world).1 = injection.outcome error ∧
      Struck world ((program >>= next) world).2 := by
  obtain ⟨outcome, struck⟩ := failed
  change (CrashRun.bind program next world).1 = _ ∧
    Struck world (CrashRun.bind program next world).2
  unfold CrashRun.bind
  cases ending : program world with
  | mk result after =>
      rw [ending] at outcome struck
      simp only at outcome
      subst outcome
      unfold Injection.outcome
      cases injection.halts with
      | true => exact ⟨rfl, struck⟩
      | false => exact ⟨rfl, struck⟩

/-- The branch that fires. -/
theorem struck_ite {injection : Injection} {error : ε} {targeted : Bool}
    {program other : CrashRun (World σ) ε α} {world : World σ}
    (hit : targeted = true)
    (struck : (program world).1 = injection.outcome error ∧
      Struck world (program world).2) :
    ((if targeted = true then program else other) world).1 =
        injection.outcome error ∧
      Struck world
        ((if targeted = true then program else other) world).2 := by
  rw [if_pos hit]
  exact struck

/-! ### postgres-postgres -/

namespace PostgresPostgres

def FailAction.halts : FailAction → Bool
  | .typedError => false
  | .pauseForKill _ => true

/-- The failpoint of a run. -/
def injection (failAtChunk : UInt32) (mode : FailureMode)
    (action : FailAction) : Injection :=
  { attempt := failAtChunk.toNat
    beforeWrite := false
    duringWrite := failAtChunk != 0 && mode == .duringWrite
    afterCommit := failAtChunk != 0 && mode == .afterBusinessCommit
    halts := action.halts }

variable (failAtChunk : UInt32) (mode : FailureMode) (action : FailAction)

theorem hits_eq (world : World σ) :
    (injection failAtChunk mode action).hits world =
      (world.chunkOrdinal == failAtChunk) := by
  apply Bool.eq_iff_iff.mpr
  rw [Injection.hits, beq_iff_eq, beq_iff_eq]
  exact UInt32.toNat_inj

/-- Firing sets the flag and fails, or stops the process. -/
theorem fire_struck (where_ : String) (error : ε) (world : World σ) :
    ((do
        storeFired
        fire action where_
        CrashRun.fail error : CrashRun (World σ) ε α) world).1 =
          (injection failAtChunk mode action).outcome error ∧
      Struck world ((do
        storeFired
        fire action where_
        CrashRun.fail error : CrashRun (World σ) ε α) world).2 := by
  cases action with
  | typedError => exact ⟨rfl, rfl, rfl, rfl⟩
  | pauseForKill markerPath =>
      constructor
      · rfl
      · change Struck world (if world.markerWritable = true then _ else _)
        split
        · exact ⟨rfl, rfl, rfl⟩
        · exact ⟨rfl, rfl, rfl⟩

theorem commitWith_intercepted
    (transaction : FailingChunkTransaction Transaction FailAction)
    (owned : transaction.action = action)
    (program : CrashRun σ F.TransactionError F.Receipt) (world : World σ) :
    Intercepted (injection failAtChunk mode action) F.commitOutcomeUnknown
      false transaction.shouldFire program world
      (commitWith transaction program world) := by
  apply intercepted_of_bind
  · intro quiet receipt
    rw [quiet, if_neg Bool.false_ne_true]
    rfl
  · intro loud receipt
    rw [loud, if_pos rfl, owned]
    exact injected_bind (fire_struck failAtChunk mode action _ _ _)

theorem write_intercepted (inner : Components F Transaction σ)
    (items : List F.Item) (context : F.WriteContext) (world : World σ) :
    Intercepted (injection failAtChunk mode action) F.transientInfrastructure
      ((injection failAtChunk mode action).hits world && false)
      ((injection failAtChunk mode action).hits world &&
        (failAtChunk != 0 && mode == .duringWrite))
      (inner.write items context) world
      (FailingWriter.write { failAtChunk, mode, action } inner items context
        world) := by
  rw [Bool.and_false, hits_eq, ← Bool.and_assoc,
    Bool.and_comm (world.chunkOrdinal == failAtChunk)]
  apply intercepted_of_bind
  · intro quiet outcome
    exact congrFun (if_neg (Bool.eq_false_iff.mp quiet)) _
  · intro loud outcome
    exact struck_ite loud
      (fire_struck failAtChunk mode action "writer during-write" _ _)

theorem wrap_wrapped (begins : CrashRun σ F.TransactionError Transaction)
    (world : World σ) :
    Wrapped (injection failAtChunk mode action) action begins world
      (FailingTransactionManager.wrap
        { failAtChunk
          fireAfterCommit := failAtChunk != 0 && mode == .afterBusinessCommit
          action } begins world) := by
  unfold FailingTransactionManager.wrap
  rw [nextOrdinal_bind]
  apply wrapped_of_eq
  rw [hits_eq]
  have same : ((failAtChunk != 0 && mode == .afterBusinessCommit) &&
      failAtChunk != 0) = (failAtChunk != 0 && mode == .afterBusinessCommit) := by
    rw [Bool.and_right_comm, Bool.and_self]
  rw [same]
  rfl

theorem decorates (inner : Components F Transaction σ) :
    Decorates (injection failAtChunk mode action) action inner
      (decorated failAtChunk mode action inner) where
  write := write_intercepted failAtChunk mode action inner
  beginUnbound := wrap_wrapped failAtChunk mode action inner.beginUnbound
  beginFor := fun context =>
    wrap_wrapped failAtChunk mode action (inner.beginFor context)
  commit := fun transaction _ _ world owned =>
    commitWith_intercepted failAtChunk mode action transaction owned _ world
  commitWithComponentState := fun transaction _ _ _ world owned =>
    commitWith_intercepted failAtChunk mode action transaction owned _ world
  rollback := fun _ => rfl
  inheritedProgress := fun _ => rfl
  inheritedComponentState := fun _ => rfl

end PostgresPostgres

/-! ### csv-postgres -/

namespace CsvPostgres

/-- The failpoint of a run. -/
def injection (failAtChunk : UInt32) (mode : FailureMode)
    (hardCrash : Bool) : Injection :=
  { attempt := failAtChunk.toNat
    beforeWrite := mode == .beforeWrite
    duringWrite := mode == .duringWrite
    afterCommit := failAtChunk != 0 && mode == .afterBusinessCommit
    halts := hardCrash }

variable (failAtChunk : UInt32) (mode : FailureMode) (hardCrash : Bool)

theorem hits_eq (world : World σ) :
    (injection failAtChunk mode hardCrash).hits world =
      (world.chunkOrdinal == failAtChunk) := by
  apply Bool.eq_iff_iff.mpr
  rw [Injection.hits, beq_iff_eq, beq_iff_eq]
  exact UInt32.toNat_inj

theorem fire_struck (error : ε) (world : World σ) :
    ((do
        storeFired
        maybeAbort hardCrash
        CrashRun.fail error : CrashRun (World σ) ε α) world).1 =
          (injection failAtChunk mode hardCrash).outcome error ∧
      Struck world ((do
        storeFired
        maybeAbort hardCrash
        CrashRun.fail error : CrashRun (World σ) ε α) world).2 := by
  cases hardCrash with
  | true => exact ⟨rfl, rfl, rfl, rfl⟩
  | false => exact ⟨rfl, rfl, rfl, rfl⟩

theorem commitWith_intercepted
    (transaction : FailingChunkTransaction Transaction Bool)
    (owned : transaction.action = hardCrash)
    (program : CrashRun σ F.TransactionError F.Receipt) (world : World σ) :
    Intercepted (injection failAtChunk mode hardCrash) F.commitOutcomeUnknown
      false transaction.shouldFire program world
      (commitWith transaction program world) := by
  apply intercepted_of_bind
  · intro quiet receipt
    rw [quiet, if_neg Bool.false_ne_true]
    rfl
  · intro loud receipt
    rw [loud, if_pos rfl, owned]
    exact injected_bind (fire_struck failAtChunk mode hardCrash _ _)

theorem write_intercepted (inner : Components F Transaction σ)
    (items : List F.Item) (context : F.WriteContext) (world : World σ) :
    Intercepted (injection failAtChunk mode hardCrash)
      F.transientInfrastructure
      ((injection failAtChunk mode hardCrash).hits world &&
        mode == .beforeWrite)
      ((injection failAtChunk mode hardCrash).hits world &&
        mode == .duringWrite)
      (inner.write items context) world
      (FailingWriter.write { failAtChunk, mode, hardCrash } inner items
        context world) := by
  rw [hits_eq]
  cases before : world.chunkOrdinal == failAtChunk && mode == .beforeWrite with
  | true =>
      unfold Intercepted
      rw [if_pos rfl]
      exact struck_ite before (fire_struck failAtChunk mode hardCrash _ world)
  | false =>
      have skipped : FailingWriter.write { failAtChunk, mode, hardCrash }
          inner items context world =
            (inside (inner.write items context) >>= fun outcome =>
              if (world.chunkOrdinal == failAtChunk &&
                  mode == .duringWrite) = true then do
                storeFired
                maybeAbort hardCrash
                CrashRun.fail F.transientInfrastructure
              else return outcome) world :=
        congrFun (if_neg (Bool.eq_false_iff.mp before)) world
      rw [skipped]
      apply intercepted_of_bind
      · intro quiet outcome
        rw [if_neg (Bool.eq_false_iff.mp quiet)]
        rfl
      · intro loud outcome
        exact struck_ite loud (fire_struck failAtChunk mode hardCrash _ _)

theorem wrap_wrapped (begins : CrashRun σ F.TransactionError Transaction)
    (world : World σ) :
    Wrapped (injection failAtChunk mode hardCrash) hardCrash begins world
      (FailingTransactionManager.wrap
        { failAtChunk
          fireAfterCommit := failAtChunk != 0 && mode == .afterBusinessCommit
          hardCrash } begins world) := by
  unfold FailingTransactionManager.wrap
  rw [nextOrdinal_bind]
  apply wrapped_of_eq
  rw [hits_eq]
  rfl

theorem decorates (inner : Components F Transaction σ) :
    Decorates (injection failAtChunk mode hardCrash) hardCrash inner
      (decorated failAtChunk mode hardCrash inner) where
  write := write_intercepted failAtChunk mode hardCrash inner
  beginUnbound := wrap_wrapped failAtChunk mode hardCrash inner.beginUnbound
  beginFor := fun context =>
    wrap_wrapped failAtChunk mode hardCrash (inner.beginFor context)
  commit := fun transaction _ _ world owned =>
    commitWith_intercepted failAtChunk mode hardCrash transaction owned _ world
  commitWithComponentState := fun transaction _ _ _ world owned =>
    commitWith_intercepted failAtChunk mode hardCrash transaction owned _ world
  rollback := fun _ => rfl
  inheritedProgress := fun _ => rfl
  inheritedComponentState := fun _ => rfl

end CsvPostgres

/-! ### Both -/

/-- The failpoint of either workload fires at its attempt and nowhere else,
and without a chosen attempt the decorators cannot be noticed. -/
theorem failpoints_exact (inner : Components F Transaction σ) :
    (∀ failAtChunk mode action, 0 < failAtChunk →
      FiresOnlyAt (PostgresPostgres.injection failAtChunk mode action) inner
        (PostgresPostgres.decorated failAtChunk mode action inner)) ∧
    (∀ failAtChunk mode hardCrash, 0 < failAtChunk →
      FiresOnlyAt (CsvPostgres.injection failAtChunk mode hardCrash) inner
        (CsvPostgres.decorated failAtChunk mode hardCrash inner)) ∧
    ∀ mode action,
      Transparent inner (PostgresPostgres.decorated 0 mode action inner) := by
  constructor
  · intro failAtChunk mode action _
    exact (PostgresPostgres.decorates failAtChunk mode action
      inner).firesOnlyAt
  constructor
  · intro failAtChunk mode hardCrash _
    exact (CsvPostgres.decorates failAtChunk mode hardCrash inner).firesOnlyAt
  · intro mode action world calls
    apply run_transparent (PostgresPostgres.decorates 0 mode action inner)
    · intro response
      cases response <;> rfl
    · intro transaction impossible
      cases impossible

/-- A framework without data. -/
def bareFramework : Framework :=
  { Item := Unit
    WriteContext := Unit
    WriteOutcome := Unit
    WriterError := String
    TransactionContext := Unit
    Counts := Unit
    FaultProgress := Unit
    ComponentState := Unit
    Receipt := Unit
    Progress := Unit
    TransactionError := String
    transientInfrastructure := "transient infrastructure"
    commitOutcomeUnknown := "commit outcome unknown" }

/-- Objects that count their commits. -/
def countingComponents : Components bareFramework Unit Nat :=
  { write := fun _ _ => pure ()
    beginUnbound := pure ()
    beginFor := fun _ => pure ()
    commit := fun _ _ _ => CrashRun.modify Nat.succ
    commitWithComponentState := fun _ _ _ _ => CrashRun.modify Nat.succ
    rollback := fun _ => pure ()
    inheritedProgress := fun _ => pure ()
    inheritedComponentState := fun _ => pure [] }

/-- The first commit succeeds, and is reported as unknown. -/
theorem failpoints_exact_first : ∃ world : World Nat,
    let objects := CsvPostgres.decorated 1 .afterBusinessCommit false
      countingComponents
    let opened := (run objects [.beginFor ()] ⟨none, world⟩).2
    let result := step objects (.commit () ()) opened
    result.1 = .committed (.error "commit outcome unknown") ∧
      plain result.2 = ⟨none, 1⟩ ∧ result.2.state.fired = true := by
  let world : World Nat :=
    { inner := 0
      chunkOrdinal := 0
      fired := false
      processId := 7
      markerWritable := true
      marker := none }
  have exactly := (failpoints_exact countingComponents).2.1 1
    .afterBusinessCommit false (by decide) world
    [.beginFor (), .commit () ()] rfl rfl (by decide)
  have answered : Answered (CsvPostgres.decorated 1 .afterBusinessCommit false
      countingComponents) [.beginFor ()] ⟨none, world⟩ := by
    intro response member
    rw [List.mem_singleton.mp member]
    rfl
  exact ⟨world, (exactly.1 [.beginFor ()] (.commit () ()) [] rfl
    answered).strikes rfl⟩

end Failpoint
