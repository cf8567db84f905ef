/-
The three operations that identify the source content and then read it: the
workload's run and its verifier, and the run of the raw sqlx engine.

Each of them holds a table lock from before it computes the digest.  The
launcher of the framework is outside the repository; it is a program that is
not given the lock.  A statement that is streamed is one statement: its rows
are those of the moment it started.  Logging and connecting are left out.
-/

import OxideWorkloads.Failpoint.Decorators
import OxideWorkloads.Foundation.GuardedRuns
import OxideWorkloads.Projection.SourceStreams

namespace Projection

open Foundation
open Foundation.Checks
open Failpoint.PostgresPostgres (FailureMode FailAction)

/-- A program on the source table. -/
abbrev SourceProgram (σ τ α : Type) :=
  Guarded SourceTable SourceRow σ τ String α

/-- The rows by id, as the digest and the verifier select them. -/
def SourceTable.selectAll (table : SourceTable) : List SourceRow := table.rows

/-! ### The workload's run -/

namespace Job

inductive ReaderMode where
  | cursor
  | paging
  deriving DecidableEq

def ReaderMode.asStr : ReaderMode → String
  | .cursor => "cursor"
  | .paging => "paging"

def definitionRevision : ReaderMode → String
  | .cursor => "postgres-postgres-transform-cursor-v2"
  | .paging => "postgres-postgres-transform-paging-v2"

def defaultFetchSize : Nat := 200
def defaultPageSize : Nat := 250

structure RunArgs where
  importName : String
  chunkSize : UInt32
  readerMode : ReaderMode
  fetchSize : Option Nat
  pageSize : Option Nat
  failAtChunk : UInt32
  failureMode : FailureMode
  pauseForKill : Option String

/-- The identifying parameters of the job. -/
structure JobParameters where
  importName : String
  sourceDigest : String
  readerMode : String
  deriving DecidableEq

def parameters (importName sourceDigest : String) (mode : ReaderMode) :
    JobParameters :=
  { importName, sourceDigest, readerMode := mode.asStr }

/-- What the launcher is given. -/
structure Launch where
  jobName : String
  definitionRevision : String
  parameters : JobParameters
  readerMode : ReaderMode
  readBatchSize : Nat
  chunkSize : UInt32
  failAtChunk : UInt32
  failureMode : FailureMode
  action : FailAction

/-- The reader's options belong to its mode. -/
def checkOptions (args : RunArgs) : Except String Unit :=
  match args.readerMode with
  | .cursor => ensure (args.pageSize = none)
      "--page-size is only valid with --reader paging; this run selected --reader cursor (use --fetch-size for cursor mode instead)"
  | .paging => ensure (args.fetchSize = none)
      "--fetch-size is only valid with --reader cursor; this run selected --reader paging (use --page-size for paging mode instead)"

def launchOf (args : RunArgs) (sourceDigest : String) : Launch :=
  { jobName := args.importName
    definitionRevision := definitionRevision args.readerMode
    parameters := parameters args.importName sourceDigest args.readerMode
    readerMode := args.readerMode
    readBatchSize :=
      match args.readerMode with
      | .cursor => args.fetchSize.getD defaultFetchSize
      | .paging => args.pageSize.getD defaultPageSize
    chunkSize := args.chunkSize
    failAtChunk := args.failAtChunk
    failureMode := args.failureMode
    action :=
      match args.pauseForKill with
      | some markerPath => .pauseForKill markerPath
      | none => .typedError }

section Run

variable {σ τ Status : Type} [DecidableEq Status] (completed : Status)
  (text : Status → String) (launchChunk : Launch → SourceProgram σ τ Status)

/-- Launch the job, end the lock and judge the status. -/
def launchAndFinish (launch : Launch) : SourceProgram σ τ Unit := do
  let status ← launchChunk launch
  Guarded.finish
  Guarded.ofExcept (ensure (status = completed)
    s!"job execution ended with status {text status}, not Completed")

/-- The run; its value is the identity of the job. -/
def run (platform : Platform) (args : RunArgs) :
    SourceProgram σ τ JobParameters := do
  Guarded.ofExcept (checkOptions args)
  Guarded.begin
  let source ← Guarded.select SourceTable.selectAll
  let sourceDigest := compute platform source.1
  let launch := launchOf args sourceDigest
  launchAndFinish completed text launchChunk launch
  return launch.parameters

end Run

end Job

/-! ### The verifier -/

/-- The rows of the destination by import name and source digest. -/
abbrev Destination := String → String → Rows ActualRow

/-- The verifier; its value is the report it prints. -/
def verifyLocked (platform : Platform) (importName : String) :
    SourceProgram Destination Empty VerifyReport := do
  Guarded.begin
  let identified ← Guarded.select SourceTable.selectAll
  let sourceDigest := compute platform identified.1
  let source ← Guarded.select SourceTable.selectAll
  let stored ← Guarded.snapshot
  let (nextSource, sourceRest) ← Guarded.ofExcept
    (tryNext (source.1.map Except.ok))
  let (nextActual, destinationRest) ← Guarded.ofExcept
    (tryNext (stored importName sourceDigest))
  let state ← Guarded.ofExcept (mergeLoop (expectedProjection platform)
    (nextSource.map (expectedProjection platform)) nextActual sourceRest
    destinationRest .start)
  Guarded.finish
  let printed := report platform importName sourceDigest state
  Guarded.ofExcept printed.conclude
  return printed

/-! ### The raw sqlx engine -/

namespace RawSqlx

abbrev LockedRun (α : Type) := SourceProgram Database ChunkTransaction α

/-- The number of ids above a position, or more. -/
def idsAbove : Option Int64 → Nat
  | none => 18446744073709551616
  | some customerId => (9223372036854775807 - customerId.toInt).toNat

/-- A page ends behind the position it was asked for. -/
theorem idsAbove_lt {position : Option Int64} {size : Nat}
    {page : List SourceRow} {last : SourceRow}
    (answer : ∃ table, fetchPage table position size = page)
    (found : page.getLast? = some last) :
    idsAbove (some last.customerId) < idsAbove position := by
  obtain ⟨table, rfl⟩ := answer
  have member : last ∈ table.after position :=
    List.mem_of_mem_take (List.mem_of_getLast? found)
  have above := last.customerId.toInt_lt
  have below := last.customerId.le_toInt
  cases position with
  | none =>
      simp only [idsAbove]
      omega
  | some customerId =>
      have behind : customerId < last.customerId :=
        of_decide_eq_true (List.mem_filter.mp member).2
      rw [Int64.lt_iff_toInt_lt] at behind
      simp only [idsAbove]
      omega

/-- The loop of `run_paging`, with a statement for each page. -/
def pagingLoopLocked (platform : Platform) (identity : ExecutionIdentity)
    (config : RunConfig) (readPosition : Option Int64) (state : RunState) :
    LockedRun RunState := do
  let page ← Guarded.select
    (fun table => fetchPage table readPosition config.readBatchSize)
  match _found : page.1.getLast? with
  | none => return state
  | some last =>
      let state ← Guarded.ofSession
        (acceptRows platform identity config state page.1)
      pagingLoopLocked platform identity config (some last.customerId) state
termination_by idsAbove readPosition
decreasing_by exact idsAbove_lt page.2 _found

/-- The rows of the cursor are those of the moment it was declared. -/
def runCursorLocked (platform : Platform) (identity : ExecutionIdentity)
    (config : RunConfig) (state : RunState) : LockedRun RunState := do
  let rows ← Guarded.select
    (fun table => table.after state.durablePosition)
  Guarded.ofSession (cursorLoop platform identity config rows.1 state)

def readRowsLocked (platform : Platform) (identity : ExecutionIdentity)
    (config : RunConfig) (state : RunState) : LockedRun RunState := do
  let state ← match config.readerMode with
    | .cursor => runCursorLocked platform identity config state
    | .paging =>
        pagingLoopLocked platform identity config state.durablePosition state
  Guarded.ofSession (flushChunk identity config state)

/-- The run; its value is the digest and the state it prints. -/
def runLocked (platform : Platform) (args : RunArgs) :
    LockedRun (String × RunState) := do
  let config ← Guarded.ofExcept (validateRunArgs args)
  Guarded.begin
  let source ← Guarded.select SourceTable.selectAll
  let digest := sourceDigest platform source.1
  let identity : ExecutionIdentity :=
    { importName := args.importName
      sourceDigest := digest
      readerMode := config.readerMode }
  let database ← Guarded.snapshot
  Guarded.ofExcept (rejectConflictingSourceIdentity identity database)
  let database ← Guarded.snapshot
  let checkpoint ← Guarded.ofExcept (loadCheckpoint identity database)
  let state ← readRowsLocked platform identity config
    (RunState.new checkpoint)
  Guarded.finish
  return (digest, state)

end RawSqlx

end Projection
