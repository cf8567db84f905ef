/-
The raw sqlx engine: one run of the projection by chunks, each committed with
its checkpoint in one transaction, and the two readers.

The source table is locked for the time of a run, so a run reads one content.
A run is a session on the destination: loading the checkpoint asks, a chunk is
one transaction.  Printing, the marker file of a pause and the contents of
error messages of the database are left out.
-/

import OxideWorkloads.Foundation.Chunks
import OxideWorkloads.Foundation.Session
import OxideWorkloads.Foundation.Word
import OxideWorkloads.Projection.Engines

namespace Projection

open Foundation
open Foundation.Checks

/-- The source table: its primary key orders the rows, and a text of the
database has no zero byte. -/
structure SourceTable where
  rows : List SourceRow
  ascending : rows.Pairwise
    (fun earlier later => earlier.customerId < later.customerId)
  zeroFree : ∀ row ∈ rows, ZeroFree row

/-- The rows after a position, or all rows. -/
def SourceTable.after (table : SourceTable) : Option Int64 → List SourceRow
  | some customerId =>
      table.rows.filter (fun row => customerId < row.customerId)
  | none => table.rows

namespace RawSqlx

def pagingDefinitionRevision : String := "raw-sqlx-postgres-postgres-paging-v1"
def cursorDefinitionRevision : String := "raw-sqlx-postgres-postgres-cursor-v1"
def defaultFetchSize : Nat := 500
def defaultPageSize : Nat := 750
def columnsPerRow : Nat := 7
def maxParametersPerStatement : Nat := 2000
def rowsPerStatement : Nat := maxParametersPerStatement / columnsPerRow
def maxBoundParameters : Nat := rowsPerStatement * columnsPerRow
def maxChunkSize : Nat := 1000000
def maxReadBatchSize : Nat := 1000000

/-! ### Arguments -/

inductive ReaderMode where
  | cursor
  | paging
  deriving DecidableEq

def ReaderMode.asStr : ReaderMode → String
  | .cursor => "cursor"
  | .paging => "paging"

def ReaderMode.definitionRevision : ReaderMode → String
  | .cursor => cursorDefinitionRevision
  | .paging => pagingDefinitionRevision

inductive PausePhase where
  | beforeCommit
  | afterCommit
  deriving DecidableEq

structure KillPause where
  chunk : Nat
  phase : PausePhase
  marker : String
  deriving DecidableEq

structure RunArgs where
  importName : String
  reader : ReaderMode
  chunkSize : Nat
  fetchSize : Option Nat
  pageSize : Option Nat
  failAfterChunk : Option Nat
  pauseAtChunk : Option Nat
  pausePhase : Option PausePhase
  pauseMarker : Option String
  deriving DecidableEq

structure RunConfig where
  readerMode : ReaderMode
  chunkSize : Nat
  readBatchSize : Nat
  failAfterChunk : Option Nat
  killPause : Option KillPause
  deriving DecidableEq

def readBatchSizeOf (args : RunArgs) : Except String Nat := do
  match args.reader with
  | .cursor =>
      ensure (args.pageSize = none)
        "--page-size is only valid with --reader paging"
      return args.fetchSize.getD defaultFetchSize
  | .paging =>
      ensure (args.fetchSize = none)
        "--fetch-size is only valid with --reader cursor"
      return args.pageSize.getD defaultPageSize

def killPauseOf (args : RunArgs) : Except String (Option KillPause) :=
  match args.pauseAtChunk, args.pausePhase, args.pauseMarker with
  | none, none, none => .ok none
  | some chunk, some phase, some marker =>
      if 0 < chunk ∧ marker ≠ "" then .ok (some { chunk, phase, marker })
      else .error
        "--pause-at-chunk, --pause-phase, and --pause-marker must be supplied together; pause_at_chunk must be greater than zero"
  | _, _, _ => .error
      "--pause-at-chunk, --pause-phase, and --pause-marker must be supplied together; pause_at_chunk must be greater than zero"

def validateRunArgs (args : RunArgs) : Except String RunConfig := do
  ensure (args.importName ≠ "") "import_name must not be empty"
  ensure (1 ≤ args.chunkSize ∧ args.chunkSize ≤ maxChunkSize)
    s!"chunk_size must be between 1 and {maxChunkSize}"
  let readBatchSize ← readBatchSizeOf args
  ensure (1 ≤ readBatchSize ∧ readBatchSize ≤ maxReadBatchSize)
    s!"reader batch size must be between 1 and {maxReadBatchSize}"
  ensure (args.failAfterChunk ≠ some 0)
    "fail_after_chunk must be greater than zero"
  let killPause ← killPauseOf args
  ensure (args.failAfterChunk = none ∨ killPause = none)
    "typed failure injection and external-kill pause cannot be enabled together"
  return {
    readerMode := args.reader
    chunkSize := args.chunkSize
    readBatchSize
    failAfterChunk := args.failAfterChunk
    killPause }

/-! ### The destination -/

structure ExecutionIdentity where
  importName : String
  sourceDigest : String
  readerMode : ReaderMode
  deriving DecidableEq

def ExecutionIdentity.definitionRevision (identity : ExecutionIdentity) :
    String :=
  identity.readerMode.definitionRevision

/-- A row of the checkpoint table; its first four columns are the key. -/
structure CheckpointRow where
  importName : String
  sourceDigest : String
  readerMode : String
  definitionRevision : String
  lastCustomerId : Int64
  committedChunks : Bigint
  committedRows : Bigint
  deriving DecidableEq

structure Database where
  projections : List ProjectedRow
  checkpoints : List CheckpointRow
  deriving DecidableEq

structure CheckpointUpdate where
  lastCustomerId : Int64
  committedChunks : Nat
  committedRows : Nat
  deriving DecidableEq

/-- Two rows with one primary key. -/
def sameKey (first second : ProjectedRow) : Bool :=
  first.importName = second.importName ∧
    first.sourceDigest = second.sourceDigest ∧
    first.customerId = second.customerId

def CheckpointRow.belongsTo (row : CheckpointRow)
    (identity : ExecutionIdentity) : Bool :=
  row.importName = identity.importName ∧
    row.sourceDigest = identity.sourceDigest ∧
    row.readerMode = identity.readerMode.asStr ∧
    row.definitionRevision = identity.definitionRevision

/-- Insert rows one after another; a primary key is taken once. -/
def insertRows : List ProjectedRow → List ProjectedRow →
    Except String (List ProjectedRow)
  | table, [] => .ok table
  | table, row :: rest =>
      if table.any (sameKey row) then
        .error "duplicate key value violates unique constraint"
      else insertRows (table ++ [row]) rest

def insertBatch (database : Database) (batch : List ProjectedRow) :
    Except String Database := do
  let boundParameters := batch.length * columnsPerRow
  ensure (batch.length ≤ rowsPerStatement ∧
      boundParameters ≤ maxBoundParameters)
    s!"writer batch exceeds parity bound of {rowsPerStatement} rows / {maxBoundParameters} parameters"
  let projections ← insertRows database.projections batch
  return { database with projections }

/-- Insert a checkpoint, or update the one with its key. -/
def upsertCheckpoint (identity : ExecutionIdentity) (row : CheckpointRow) :
    List CheckpointRow → List CheckpointRow
  | [] => [row]
  | other :: rest =>
      if other.belongsTo identity then
        { other with
          lastCustomerId := row.lastCustomerId
          committedChunks := row.committedChunks
          committedRows := row.committedRows } :: rest
      else other :: upsertCheckpoint identity row rest

/-- The transaction of one chunk. -/
structure ChunkTransaction where
  identity : ExecutionIdentity
  failAfterChunk : Option Nat
  chunk : List ProjectedRow
  checkpoint : CheckpointUpdate
  deriving DecidableEq

/-- The statements of the transaction, in their order. -/
def ChunkTransaction.apply (transaction : ChunkTransaction)
    (database : Database) : Except String Database := do
  let written ← (Chunks.chunks rowsPerStatement transaction.chunk).foldlM
    insertBatch database
  ensure
    (transaction.failAfterChunk ≠ some transaction.checkpoint.committedChunks)
    s!"injected failure after business writes before checkpoint/commit at chunk {transaction.checkpoint.committedChunks}"
  let committedChunks ← require
    (Word.toBigint? transaction.checkpoint.committedChunks)
    "out of range integral type conversion attempted"
  let committedRows ← require
    (Word.toBigint? transaction.checkpoint.committedRows)
    "out of range integral type conversion attempted"
  let row : CheckpointRow := {
    importName := transaction.identity.importName
    sourceDigest := transaction.identity.sourceDigest
    readerMode := transaction.identity.readerMode.asStr
    definitionRevision := transaction.identity.definitionRevision
    lastCustomerId := transaction.checkpoint.lastCustomerId
    committedChunks
    committedRows }
  return { written with
    checkpoints :=
      upsertCheckpoint transaction.identity row written.checkpoints }

/-- The least of some digests. -/
def leastDigest : List String → Option String
  | [] => none
  | digest :: rest =>
      match leastDigest rest with
      | none => some digest
      | some other => some (if other < digest then other else digest)

def rejectConflictingSourceIdentity (identity : ExecutionIdentity)
    (database : Database) : Except String Unit :=
  let conflicting := leastDigest ((database.checkpoints.filter (fun row =>
    row.importName = identity.importName ∧
      row.readerMode = identity.readerMode.asStr ∧
      row.definitionRevision = identity.definitionRevision ∧
      row.sourceDigest ≠ identity.sourceDigest)).map
        (fun row => row.sourceDigest))
  match conflicting with
  | some existingDigest => .error
      s!"source digest changed for existing raw execution identity: import_name={identity.importName} reader_mode={identity.readerMode.asStr} definition_revision={identity.definitionRevision} existing_digest={existingDigest} current_digest={identity.sourceDigest}; refusing to reuse or fork checkpoint state under the same import identity"
  | none => .ok ()

/-- The value as an unsigned integer, if it is not negative. -/
def toCount? (value : Bigint) : Option Nat :=
  if 0 ≤ value.val then some value.val.toNat else none

def loadCheckpoint (identity : ExecutionIdentity) (database : Database) :
    Except String (Option Int64 × Nat × Nat) :=
  match database.checkpoints.find? (fun row => row.belongsTo identity) with
  | some row => do
      let committedChunks ← require (toCount? row.committedChunks)
        "out of range integral type conversion attempted"
      let committedRows ← require (toCount? row.committedRows)
        "out of range integral type conversion attempted"
      return (some row.lastCustomerId, committedChunks, committedRows)
  | none => .ok (none, 0, 0)

/-! ### Chunks -/

structure RunState where
  durablePosition : Option Int64
  committedChunks : Nat
  committedRows : Nat
  chunk : List ProjectedRow
  deriving DecidableEq

def RunState.new (checkpoint : Option Int64 × Nat × Nat) : RunState :=
  { durablePosition := checkpoint.1
    committedChunks := checkpoint.2.1
    committedRows := checkpoint.2.2
    chunk := [] }

abbrev Run (α : Type) := Session Database ChunkTransaction String α

/-- A pause for this chunk and phase is configured. -/
def pausesAt (pause : Option KillPause) (chunk : Nat) (phase : PausePhase) :
    Bool :=
  match pause with
  | none => false
  | some pause => pause.chunk = chunk ∧ pause.phase = phase

/-- A run that pauses before its commit has executed the statements and waits
for its kill; nothing of them lasts. -/
def commitChunk (identity : ExecutionIdentity) (config : RunConfig)
    (chunk : List ProjectedRow) (checkpoint : CheckpointUpdate) : Run Unit :=
  let transaction : ChunkTransaction :=
    { identity, failAfterChunk := config.failAfterChunk, chunk, checkpoint }
  if pausesAt config.killPause checkpoint.committedChunks .beforeCommit then
    .ask (fun database =>
      match transaction.apply database with
      | .error error => .failed error
      | .ok _ => .pending)
  else
    .submit transaction
      (if pausesAt config.killPause checkpoint.committedChunks .afterCommit
        then .pending else .done ())

def flushChunk (identity : ExecutionIdentity) (config : RunConfig)
    (state : RunState) : Run RunState :=
  match state.chunk.getLast? with
  | none => pure state
  | some last => do
      let checkpoint : CheckpointUpdate := {
        lastCustomerId := last.customerId
        committedChunks := state.committedChunks + 1
        committedRows := state.committedRows + state.chunk.length }
      commitChunk identity config state.chunk checkpoint
      return {
        durablePosition := some last.customerId
        committedChunks := checkpoint.committedChunks
        committedRows := checkpoint.committedRows
        chunk := [] }

def acceptSourceRow (platform : Platform) (identity : ExecutionIdentity)
    (config : RunConfig) (state : RunState) (row : SourceRow) :
    Run RunState := do
  let projected ← Session.ofExcept
    (project platform identity.importName identity.sourceDigest row)
  let state := { state with chunk := state.chunk ++ [projected] }
  if state.chunk.length = config.chunkSize then
    flushChunk identity config state
  else return state

/-- The rows of a page or of a fetch, one after another. -/
def acceptRows (platform : Platform) (identity : ExecutionIdentity)
    (config : RunConfig) : RunState → List SourceRow → Run RunState
  | state, [] => pure state
  | state, row :: rest => do
      let state ← acceptSourceRow platform identity config state row
      acceptRows platform identity config state rest

/-! ### Readers -/

def fetchPage (table : SourceTable) (afterCustomerId : Option Int64)
    (pageSize : Nat) : List SourceRow :=
  (table.after afterCustomerId).take pageSize

/-- The rows after a row that is after a position. -/
theorem after_after {table : SourceTable} {position : Option Int64}
    {row : SourceRow} (member : row ∈ table.after position) :
    table.after (some row.customerId) =
      (table.after position).filter
        (fun other => row.customerId < other.customerId) := by
  cases position with
  | none => rfl
  | some customerId =>
      have behind : customerId < row.customerId :=
        of_decide_eq_true (List.mem_filter.mp member).2
      unfold SourceTable.after
      rw [List.filter_filter]
      apply List.filter_congr
      intro other _
      apply Bool.eq_iff_iff.mpr
      rw [Bool.and_eq_true_iff, decide_eq_true_iff, decide_eq_true_iff]
      constructor
      · intro later
        exact ⟨later, Int64.lt_trans behind later⟩
      · intro both
        exact both.1

/-- Behind the last row of a page there are fewer rows than before the
page. -/
theorem after_last_lt {table : SourceTable} {position : Option Int64}
    {size : Nat} {last : SourceRow}
    (found : (fetchPage table position size).getLast? = some last) :
    (table.after (some last.customerId)).length <
      (table.after position).length := by
  have member : last ∈ table.after position :=
    List.mem_of_mem_take (List.mem_of_getLast? found)
  rw [after_after member, List.length_filter_lt_length_iff_exists]
  refine ⟨last, member, ?_⟩
  rw [decide_eq_true_iff]
  exact Int64.lt_irrefl

/-- The loop of `run_paging`. -/
def pagingLoop (platform : Platform) (table : SourceTable)
    (identity : ExecutionIdentity) (config : RunConfig)
    (readPosition : Option Int64) (state : RunState) : Run RunState :=
  let page := fetchPage table readPosition config.readBatchSize
  match _found : page.getLast? with
  | none => pure state
  | some last => do
      let state ← acceptRows platform identity config state page
      pagingLoop platform table identity config (some last.customerId) state
termination_by (table.after readPosition).length
decreasing_by exact after_last_lt _found

def runPaging (platform : Platform) (table : SourceTable)
    (identity : ExecutionIdentity) (config : RunConfig) (state : RunState) :
    Run RunState :=
  pagingLoop platform table identity config state.durablePosition state

/-- The fetches from a cursor over the rows that are still to come. -/
def cursorLoop (platform : Platform) (identity : ExecutionIdentity)
    (config : RunConfig) (rows : List SourceRow) (state : RunState) :
    Run RunState :=
  let fetched := rows.take config.readBatchSize
  if _sawRow : fetched = [] then pure state
  else do
    let state ← acceptRows platform identity config state fetched
    cursorLoop platform identity config (rows.drop config.readBatchSize) state
termination_by rows.length
decreasing_by
  rw [List.take_eq_nil_iff, not_or] at _sawRow
  have nonempty := List.length_pos_iff.mpr _sawRow.2
  rw [List.length_drop]
  omega

def runCursor (platform : Platform) (table : SourceTable)
    (identity : ExecutionIdentity) (config : RunConfig) (state : RunState) :
    Run RunState :=
  cursorLoop platform identity config (table.after state.durablePosition) state

/-- Read all rows after the checkpoint and commit what is left. -/
def readRows (platform : Platform) (table : SourceTable)
    (identity : ExecutionIdentity) (config : RunConfig) (state : RunState) :
    Run RunState := do
  let state ← match config.readerMode with
    | .cursor => runCursor platform table identity config state
    | .paging => runPaging platform table identity config state
  flushChunk identity config state

def run (platform : Platform) (table : SourceTable) (args : RunArgs) :
    Run RunState := do
  let config ← Session.ofExcept (validateRunArgs args)
  let digest := compute platform table.rows
  let identity : ExecutionIdentity :=
    { importName := args.importName
      sourceDigest := digest
      readerMode := config.readerMode }
  let database ← Session.snapshot
  Session.ofExcept (rejectConflictingSourceIdentity identity database)
  let database ← Session.snapshot
  let checkpoint ← Session.ofExcept (loadCheckpoint identity database)
  readRows platform table identity config (RunState.new checkpoint)

end RawSqlx

end Projection
