/-
The failpoint decorators of the two workloads: a writer and a transaction
manager that share one counter of chunk transaction attempts.

The framework's writer, manager and transactions are outside the repository;
they are programs over a state of their own that return, fail or never return.
Log lines are left out.
-/

import OxideWorkloads.Foundation.CrashRun

namespace Failpoint

open Foundation

/-! ### The framework's objects -/

/-- The types that pass through the decorators, and the two errors that they
make themselves. -/
structure Framework where
  Item : Type
  WriteContext : Type
  WriteOutcome : Type
  WriterError : Type
  TransactionContext : Type
  Counts : Type
  FaultProgress : Type
  ComponentState : Type
  Receipt : Type
  Progress : Type
  TransactionError : Type
  transientInfrastructure : WriterError
  commitOutcomeUnknown : TransactionError

/-- A writer and a transaction manager over a state `σ`. -/
structure Components (F : Framework) (Transaction σ : Type) where
  write : List F.Item → F.WriteContext →
    CrashRun σ F.WriterError F.WriteOutcome
  beginUnbound : CrashRun σ F.TransactionError Transaction
  beginFor : F.TransactionContext →
    CrashRun σ F.TransactionError Transaction
  commit : Transaction → F.Counts → F.FaultProgress →
    CrashRun σ F.TransactionError F.Receipt
  commitWithComponentState : Transaction → F.Counts → F.FaultProgress →
    List F.ComponentState → CrashRun σ F.TransactionError F.Receipt
  rollback : Transaction → CrashRun σ F.TransactionError Unit
  inheritedProgress : F.TransactionContext →
    CrashRun σ F.TransactionError F.Progress
  inheritedComponentState : F.TransactionContext →
    CrashRun σ F.TransactionError (List F.ComponentState)

/-- The state of the decorated objects: what they share beside the inner
state, and the process with its marker file. -/
structure World (σ : Type) where
  inner : σ
  chunkOrdinal : UInt32
  fired : Bool
  processId : Nat
  markerWritable : Bool
  marker : Option (String × String)

variable {F : Framework} {Transaction σ ε α : Type}

/-- A program of an inner object. -/
def inside (program : CrashRun σ ε α) : CrashRun (World σ) ε α :=
  fun world =>
    ((program world.inner).1, { world with inner := (program world.inner).2 })

def loadOrdinal : CrashRun (World σ) ε UInt32 :=
  fun world => (.ok world.chunkOrdinal, world)

/-- Count one more attempt; the counter wraps. -/
def nextOrdinal : CrashRun (World σ) ε UInt32 := do
  CrashRun.modify (fun world =>
    { world with chunkOrdinal := world.chunkOrdinal + 1 })
  loadOrdinal

def storeFired : CrashRun (World σ) ε Unit :=
  CrashRun.modify (fun world => { world with fired := true })

structure FailingChunkTransaction (Transaction Action : Type) where
  inner : Transaction
  shouldFire : Bool
  action : Action

/-! ### postgres-postgres -/

namespace PostgresPostgres

inductive FailureMode where
  | duringWrite
  | afterBusinessCommit
  deriving DecidableEq

inductive FailAction where
  | typedError
  | pauseForKill (markerPath : String)

/-- The text of the marker file. -/
def markerText (processId : Nat) (where_ : String) : String :=
  s!"{processId}\n{where_}\n"

/-- Pause until the process is killed, or do nothing.  A marker that cannot be
written aborts the process. -/
def fire (action : FailAction) (where_ : String) :
    CrashRun (World σ) ε Unit :=
  match action with
  | .pauseForKill markerPath => do
      CrashRun.modify (fun world =>
        if world.markerWritable then
          { world with
            marker := some (markerPath, markerText world.processId where_) }
        else world)
      CrashRun.kill
  | .typedError => pure ()

structure FailingWriter where
  failAtChunk : UInt32
  mode : FailureMode
  action : FailAction

def FailingWriter.write (writer : FailingWriter)
    (inner : Components F Transaction σ) (items : List F.Item)
    (context : F.WriteContext) :
    CrashRun (World σ) F.WriterError F.WriteOutcome := do
  let outcome ← inside (inner.write items context)
  let ordinal ← loadOrdinal
  let targeted := writer.failAtChunk != 0 && ordinal == writer.failAtChunk
  if (targeted && writer.mode == .duringWrite) = true then do
    storeFired
    fire writer.action "writer during-write"
    CrashRun.fail F.transientInfrastructure
  else return outcome

def fireAfterCommit (F : Framework) (action : FailAction) :
    CrashRun (World σ) F.TransactionError Unit := do
  storeFired
  fire action "after-business-commit"
  CrashRun.fail F.commitOutcomeUnknown

/-- Both commit methods, by the inner commit that they call. -/
def commitWith
    (transaction : FailingChunkTransaction Transaction FailAction)
    (innerCommit : CrashRun σ F.TransactionError F.Receipt) :
    CrashRun (World σ) F.TransactionError F.Receipt := do
  let receipt ← inside innerCommit
  if transaction.shouldFire then
    fireAfterCommit F transaction.action
    return receipt
  else return receipt

structure FailingTransactionManager where
  failAtChunk : UInt32
  fireAfterCommit : Bool
  action : FailAction

def FailingTransactionManager.wrap (manager : FailingTransactionManager)
    (innerFuture : CrashRun σ F.TransactionError Transaction) :
    CrashRun (World σ) F.TransactionError
      (FailingChunkTransaction Transaction FailAction) := do
  let ordinal ← nextOrdinal
  let shouldFire := manager.fireAfterCommit && manager.failAtChunk != 0 &&
    ordinal == manager.failAtChunk
  let innerTxn ← inside innerFuture
  return { inner := innerTxn, shouldFire, action := manager.action }

/-- The decorated objects of a run. -/
def decorated (failAtChunk : UInt32) (mode : FailureMode)
    (action : FailAction) (inner : Components F Transaction σ) :
    Components F (FailingChunkTransaction Transaction FailAction)
      (World σ) :=
  let writer : FailingWriter := { failAtChunk, mode, action }
  let fireAfterCommit := failAtChunk != 0 && mode == .afterBusinessCommit
  let manager : FailingTransactionManager :=
    { failAtChunk, fireAfterCommit, action }
  { write := writer.write inner
    beginUnbound := manager.wrap inner.beginUnbound
    beginFor := fun context => manager.wrap (inner.beginFor context)
    commit := fun transaction counts fault =>
      commitWith transaction (inner.commit transaction.inner counts fault)
    commitWithComponentState := fun transaction counts fault state =>
      commitWith transaction
        (inner.commitWithComponentState transaction.inner counts fault state)
    rollback := fun transaction => inside (inner.rollback transaction.inner)
    inheritedProgress := fun context =>
      inside (inner.inheritedProgress context)
    inheritedComponentState := fun context =>
      inside (inner.inheritedComponentState context) }

end PostgresPostgres

/-! ### csv-postgres -/

namespace CsvPostgres

inductive FailureMode where
  | beforeWrite
  | duringWrite
  | afterBusinessCommit
  deriving DecidableEq

/-- Abort the process, or do nothing. -/
def maybeAbort (hardCrash : Bool) : CrashRun (World σ) ε Unit :=
  if hardCrash then CrashRun.kill else pure ()

structure FailingWriter where
  failAtChunk : UInt32
  mode : FailureMode
  hardCrash : Bool

def FailingWriter.write (writer : FailingWriter)
    (inner : Components F Transaction σ) (items : List F.Item)
    (context : F.WriteContext) :
    CrashRun (World σ) F.WriterError F.WriteOutcome := do
  let ordinal ← loadOrdinal
  let targeted := ordinal == writer.failAtChunk
  if (targeted && writer.mode == .beforeWrite) = true then do
    storeFired
    maybeAbort writer.hardCrash
    CrashRun.fail F.transientInfrastructure
  else do
    let outcome ← inside (inner.write items context)
    if (targeted && writer.mode == .duringWrite) = true then do
      storeFired
      maybeAbort writer.hardCrash
      CrashRun.fail F.transientInfrastructure
    else return outcome

def fireAfterCommit (F : Framework) (hardCrash : Bool) :
    CrashRun (World σ) F.TransactionError Unit := do
  storeFired
  maybeAbort hardCrash
  CrashRun.fail F.commitOutcomeUnknown

/-- Both commit methods, by the inner commit that they call. -/
def commitWith (transaction : FailingChunkTransaction Transaction Bool)
    (innerCommit : CrashRun σ F.TransactionError F.Receipt) :
    CrashRun (World σ) F.TransactionError F.Receipt := do
  let receipt ← inside innerCommit
  if transaction.shouldFire then
    fireAfterCommit F transaction.action
    return receipt
  else return receipt

structure FailingTransactionManager where
  failAtChunk : UInt32
  fireAfterCommit : Bool
  hardCrash : Bool

def FailingTransactionManager.wrap (manager : FailingTransactionManager)
    (innerFuture : CrashRun σ F.TransactionError Transaction) :
    CrashRun (World σ) F.TransactionError
      (FailingChunkTransaction Transaction Bool) := do
  let ordinal ← nextOrdinal
  let shouldFire := manager.fireAfterCommit && ordinal == manager.failAtChunk
  let innerTxn ← inside innerFuture
  return { inner := innerTxn, shouldFire, action := manager.hardCrash }

/-- The decorated objects of a run. -/
def decorated (failAtChunk : UInt32) (mode : FailureMode) (hardCrash : Bool)
    (inner : Components F Transaction σ) :
    Components F (FailingChunkTransaction Transaction Bool) (World σ) :=
  let writer : FailingWriter := { failAtChunk, mode, hardCrash }
  let fireAfterCommit := failAtChunk != 0 && mode == .afterBusinessCommit
  let manager : FailingTransactionManager :=
    { failAtChunk, fireAfterCommit, hardCrash }
  { write := writer.write inner
    beginUnbound := manager.wrap inner.beginUnbound
    beginFor := fun context => manager.wrap (inner.beginFor context)
    commit := fun transaction counts fault =>
      commitWith transaction (inner.commit transaction.inner counts fault)
    commitWithComponentState := fun transaction counts fault state =>
      commitWith transaction
        (inner.commitWithComponentState transaction.inner counts fault state)
    rollback := fun transaction => inside (inner.rollback transaction.inner)
    inheritedProgress := fun context =>
      inside (inner.inheritedProgress context)
    inheritedComponentState := fun context =>
      inside (inner.inheritedComponentState context) }

end CsvPostgres

/-! ### Runs -/

/-- A call of the pipeline. -/
inductive Call (F : Framework) where
  | beginUnbound
  | beginFor (context : F.TransactionContext)
  | write (items : List F.Item) (context : F.WriteContext)
  | commit (counts : F.Counts) (fault : F.FaultProgress)
  | commitWithComponentState (counts : F.Counts) (fault : F.FaultProgress)
      (componentState : List F.ComponentState)
  | rollback
  | inheritedProgress (context : F.TransactionContext)
  | inheritedComponentState (context : F.TransactionContext)

/-- How a call ends.  Without an open transaction there is nothing to end. -/
inductive Response (F : Framework) where
  | began (outcome : Outcome F.TransactionError Unit)
  | wrote (outcome : Outcome F.WriterError F.WriteOutcome)
  | committed (outcome : Outcome F.TransactionError F.Receipt)
  | rolledBack (outcome : Outcome F.TransactionError Unit)
  | progress (outcome : Outcome F.TransactionError F.Progress)
  | componentState
      (outcome : Outcome F.TransactionError (List F.ComponentState))
  | noTransaction

/-- The call never returned. -/
def Response.halted : Response F → Bool
  | .began .killed => true
  | .wrote .killed => true
  | .committed .killed => true
  | .rolledBack .killed => true
  | .progress .killed => true
  | .componentState .killed => true
  | _ => false

/-- The transaction that is open, and the state of the objects. -/
structure Pipeline (Transaction σ : Type) where
  current : Option Transaction
  state : σ

section Runs

variable (components : Components F Transaction σ)

def started (begins : CrashRun σ F.TransactionError Transaction)
    (state : σ) : Response F × Pipeline Transaction σ :=
  match begins state with
  | (.ok transaction, after) => (.began (.ok ()), ⟨some transaction, after⟩)
  | (.error error, after) => (.began (.error error), ⟨none, after⟩)
  | (.killed, after) => (.began .killed, ⟨none, after⟩)

def step (call : Call F) (pipeline : Pipeline Transaction σ) :
    Response F × Pipeline Transaction σ :=
  match call with
  | .beginUnbound => started components.beginUnbound pipeline.state
  | .beginFor context => started (components.beginFor context) pipeline.state
  | .write items context =>
      let result := components.write items context pipeline.state
      (.wrote result.1, ⟨pipeline.current, result.2⟩)
  | .commit counts fault =>
      match pipeline.current with
      | none => (.noTransaction, pipeline)
      | some transaction =>
          let result :=
            components.commit transaction counts fault pipeline.state
          (.committed result.1, ⟨none, result.2⟩)
  | .commitWithComponentState counts fault componentState =>
      match pipeline.current with
      | none => (.noTransaction, pipeline)
      | some transaction =>
          let result := components.commitWithComponentState transaction
            counts fault componentState pipeline.state
          (.committed result.1, ⟨none, result.2⟩)
  | .rollback =>
      match pipeline.current with
      | none => (.noTransaction, pipeline)
      | some transaction =>
          let result := components.rollback transaction pipeline.state
          (.rolledBack result.1, ⟨none, result.2⟩)
  | .inheritedProgress context =>
      let result := components.inheritedProgress context pipeline.state
      (.progress result.1, ⟨pipeline.current, result.2⟩)
  | .inheritedComponentState context =>
      let result := components.inheritedComponentState context pipeline.state
      (.componentState result.1, ⟨pipeline.current, result.2⟩)

/-- The responses to calls one after another, up to one that never comes. -/
def run : List (Call F) → Pipeline Transaction σ →
    List (Response F) × Pipeline Transaction σ
  | [], pipeline => ([], pipeline)
  | call :: rest, pipeline =>
      let result := step components call pipeline
      if result.1.halted then ([result.1], result.2)
      else
        let later := run rest result.2
        (result.1 :: later.1, later.2)

end Runs

end Failpoint
