/-
The raw JDBC engine: one run of the projection by chunks over a checkpoint
table of its own, and its two readers.

A run is a session on the destination, as for the raw sqlx engine.  The values
of the options are given as parsed numbers; printing, the contents of error
messages of the database and the marker file of a pause are left out.
-/

import OxideWorkloads.Projection.SourceStreams

namespace Projection

open Foundation
open Foundation.Checks

namespace RawJdbc

open RawSqlx (CheckpointRow Database)

def cursorDefinitionRevision : String := "raw-jdbc-postgres-postgres-cursor-v1"
def pagingDefinitionRevision : String := "raw-jdbc-postgres-postgres-paging-v1"
def defaultFetchSize : Int := 500
def defaultPageSize : Int := 750
def defaultChunkSize : Int := 1000
def columnsPerRow : Nat := 7
def maxParametersPerStatement : Nat := 2000
def rowsPerStatement : Nat := maxParametersPerStatement / columnsPerRow
def maxBoundParameters : Nat := rowsPerStatement * columnsPerRow
def maxChunkSize : Int := 1000000
def maxReadBatchSize : Int := 1000000

/-! ### Options -/

inductive ReaderMode where
  | cursor
  | paging
  deriving DecidableEq

def ReaderMode.value : ReaderMode → String
  | .cursor => "cursor"
  | .paging => "paging"

def ReaderMode.parse (value : String) : Except String ReaderMode :=
  match value with
  | "cursor" => .ok .cursor
  | "paging" => .ok .paging
  | _ => .error "--reader must be cursor or paging"

/-- The options of a run; an option that is not given is absent. -/
structure Options where
  importName : Option String
  reader : Option String
  chunkSize : Option Int
  fetchSize : Option Int
  pageSize : Option Int
  failAfterChunk : Option Int
  pauseAtChunk : Option Int
  pausePhase : Option String
  pauseMarker : Option String

structure RunConfig where
  importName : String
  readerMode : ReaderMode
  chunkSize : Nat
  readBatchSize : Nat
  failAfterChunk : Option Int
  pauseAtChunk : Option Int
  pausePhase : Option String
  pauseMarker : Option String

def RunConfig.definitionRevision (config : RunConfig) : String :=
  match config.readerMode with
  | .cursor => cursorDefinitionRevision
  | .paging => pagingDefinitionRevision

def required (value : Option String) (key : String) : Except String String :=
  match value with
  | none => .error s!"missing required option --{key}"
  | some text =>
      if text = "" then .error s!"missing required option --{key}"
      else .ok text

def positiveInt (raw : Option Int) (key : String)
    (defaultValue maximum : Int) : Except String Nat := do
  let value := raw.getD defaultValue
  ensure (¬(value < 1 ∨ value > maximum))
    s!"--{key} must be between 1 and {maximum}"
  return value.toNat

def optionalPositiveLong (raw : Option Int) (key : String) :
    Except String (Option Int) := do
  ensure (∀ value ∈ raw, ¬value < 1) s!"--{key} must be greater than zero"
  return raw

def readBatchSizeOf (options : Options) (reader : ReaderMode) :
    Except String Nat :=
  match reader with
  | .cursor => positiveInt options.fetchSize "fetch-size" defaultFetchSize
      maxReadBatchSize
  | .paging => positiveInt options.pageSize "page-size" defaultPageSize
      maxReadBatchSize

def RunConfig.parse (options : Options) : Except String RunConfig := do
  let importName ← required options.importName "import-name"
  let reader ← ReaderMode.parse (← required options.reader "reader")
  let chunkSize ←
    positiveInt options.chunkSize "chunk-size" defaultChunkSize maxChunkSize
  ensure (¬(reader = .cursor ∧ options.pageSize.isSome))
    "--page-size is only valid with --reader paging"
  ensure (¬(reader = .paging ∧ options.fetchSize.isSome))
    "--fetch-size is only valid with --reader cursor"
  let readBatchSize ← readBatchSizeOf options reader
  let failAfterChunk ←
    optionalPositiveLong options.failAfterChunk "fail-after-chunk"
  let pauseAtChunk ← optionalPositiveLong options.pauseAtChunk "pause-at-chunk"
  let pauseOptions := (if pauseAtChunk.isSome then 1 else 0) +
    (if options.pausePhase.isSome then 1 else 0) +
    (if options.pauseMarker.isSome then 1 else 0)
  ensure (pauseOptions = 0 ∨ pauseOptions = 3)
    "--pause-at-chunk, --pause-phase, and --pause-marker must be supplied together"
  ensure (¬(failAfterChunk.isSome ∧ pauseAtChunk.isSome))
    "--fail-after-chunk cannot be combined with external-kill pause controls"
  ensure (∀ phase ∈ options.pausePhase,
      phase = "before-commit" ∨ phase = "after-commit")
    "--pause-phase must be before-commit or after-commit"
  return {
    importName
    readerMode := reader
    chunkSize
    readBatchSize
    failAfterChunk
    pauseAtChunk
    pausePhase := options.pausePhase
    pauseMarker := options.pauseMarker }

/-! ### The destination -/

/-- The identity of a run, with the columns that `project` does not need. -/
structure RunIdentity extends ExecutionIdentity where
  readerMode : ReaderMode
  definitionRevision : String

structure Checkpoint where
  lastCustomerId : Option Int64
  committedChunks : Bigint
  committedRows : Bigint

def belongsTo (row : CheckpointRow) (identity : RunIdentity) : Bool :=
  row.importName = identity.importName ∧
    row.sourceDigest = identity.sourceDigest ∧
    row.readerMode = identity.readerMode.value ∧
    row.definitionRevision = identity.definitionRevision

/-- The consecutive parts of a list from a start on, each but the last of the
same size. -/
def subLists {α : Type} (size : Nat) (entries : List α) (start : Nat) :
    List (List α) :=
  if _inside : 0 < size ∧ start < entries.length then
    let stop := min (start + size) entries.length
    (entries.drop start).take (stop - start) ::
      subLists size entries (start + size)
  else []
termination_by entries.length - start
decreasing_by omega

def insertBatch (database : Database) (batch : List ProjectedRow) :
    Except String Database := do
  let boundParameters := batch.length * columnsPerRow
  ensure (¬(batch = [] ∨ batch.length > rowsPerStatement ∨
      boundParameters > maxBoundParameters))
    s!"writer batch exceeds parity bound of {rowsPerStatement} rows / {maxBoundParameters} parameters"
  let projections ← RawSqlx.insertRows database.projections batch
  return { database with projections }

/-- Insert a checkpoint, or update the one with its key. -/
def upsertCheckpoint (identity : RunIdentity) (row : CheckpointRow) :
    List CheckpointRow → List CheckpointRow
  | [] => [row]
  | other :: rest =>
      if belongsTo other identity then
        { other with
          lastCustomerId := row.lastCustomerId
          committedChunks := row.committedChunks
          committedRows := row.committedRows } :: rest
      else other :: upsertCheckpoint identity row rest

/-- The transaction of one chunk. -/
structure ChunkTransaction where
  identity : RunIdentity
  failAfterChunk : Option Int
  chunk : List ProjectedRow
  lastCustomerId : Int64
  committedChunks : Bigint
  committedRows : Bigint

/-- The rows of each INSERT statement of the transaction. -/
def ChunkTransaction.statements (transaction : ChunkTransaction) :
    List (List ProjectedRow) :=
  subLists rowsPerStatement transaction.chunk 0

/-- The statements of the transaction, in their order. -/
def ChunkTransaction.apply (transaction : ChunkTransaction)
    (database : Database) : Except String Database := do
  let written ← transaction.statements.foldlM insertBatch database
  ensure (transaction.failAfterChunk ≠ some transaction.committedChunks.val)
    s!"injected failure after business writes before checkpoint/commit at chunk {transaction.committedChunks.val}"
  let row : CheckpointRow := {
    importName := transaction.identity.importName
    sourceDigest := transaction.identity.sourceDigest
    readerMode := transaction.identity.readerMode.value
    definitionRevision := transaction.identity.definitionRevision
    lastCustomerId := transaction.lastCustomerId
    committedChunks := transaction.committedChunks
    committedRows := transaction.committedRows }
  return { written with
    checkpoints :=
      upsertCheckpoint transaction.identity row written.checkpoints }

def rejectConflictingSourceIdentity (identity : RunIdentity)
    (database : Database) : Except String Unit :=
  let conflicting := RawSqlx.leastDigest ((database.checkpoints.filter
    (fun row =>
      row.importName = identity.importName ∧
        row.readerMode = identity.readerMode.value ∧
        row.definitionRevision = identity.definitionRevision ∧
        row.sourceDigest ≠ identity.sourceDigest)).map
          (fun row => row.sourceDigest))
  match conflicting with
  | some existingDigest => .error
      s!"source digest changed for existing raw Java execution identity: import_name={identity.importName} reader_mode={identity.readerMode.value} definition_revision={identity.definitionRevision} existing_digest={existingDigest} current_digest={identity.sourceDigest}; refusing stale checkpoint reuse"
  | none => .ok ()

def zero : Bigint := ⟨0, by decide⟩

def loadCheckpoint (identity : RunIdentity) (database : Database) :
    Checkpoint :=
  match database.checkpoints.find? (fun row => belongsTo row identity) with
  | some row =>
      { lastCustomerId := some row.lastCustomerId
        committedChunks := row.committedChunks
        committedRows := row.committedRows }
  | none =>
      { lastCustomerId := none, committedChunks := zero, committedRows := zero }

/-! ### Chunks -/

structure RunState where
  lastCustomerId : Option Int64
  committedChunks : Bigint
  committedRows : Bigint
  chunk : List ProjectedRow

def RunState.new (checkpoint : Checkpoint) : RunState :=
  { lastCustomerId := checkpoint.lastCustomerId
    committedChunks := checkpoint.committedChunks
    committedRows := checkpoint.committedRows
    chunk := [] }

abbrev Run (α : Type) := Session Database ChunkTransaction String α

/-- Addition that fails on overflow. -/
def addExact (left : Bigint) (right : Int) : Except String Bigint :=
  require (Word.toBigint? (left.val + right)) "long overflow"

def pauseRequested (config : RunConfig) (chunk : Int) (phase : String) :
    Bool :=
  config.pauseAtChunk = some chunk ∧ config.pausePhase = some phase

/-- A run that pauses before its commit has executed the statements and waits
for its kill; nothing of them lasts. -/
def commitChunk (config : RunConfig) (transaction : ChunkTransaction) :
    Run Unit :=
  let chunk := transaction.committedChunks.val
  if pauseRequested config chunk "before-commit" then
    .ask (fun database =>
      match transaction.apply database with
      | .error error => .failed error
      | .ok _ => .pending)
  else
    .submit transaction
      (if pauseRequested config chunk "after-commit" then .pending
        else .done ())

def flushChunk (identity : RunIdentity) (config : RunConfig)
    (state : RunState) : Run RunState :=
  match state.chunk.getLast? with
  | none => pure state
  | some last => do
      let nextChunks ← Session.ofExcept (addExact state.committedChunks 1)
      let nextRows ← Session.ofExcept
        (addExact state.committedRows state.chunk.length)
      commitChunk config {
        identity
        failAfterChunk := config.failAfterChunk
        chunk := state.chunk
        lastCustomerId := last.customerId
        committedChunks := nextChunks
        committedRows := nextRows }
      return {
        lastCustomerId := some last.customerId
        committedChunks := nextChunks
        committedRows := nextRows
        chunk := [] }

def acceptSourceRow (platform : Platform) (identity : RunIdentity)
    (config : RunConfig) (state : RunState) (row : SourceRow) :
    Run RunState := do
  let projected ← Session.ofExcept
    (project platform identity.toExecutionIdentity row)
  let state := { state with chunk := state.chunk ++ [projected] }
  if state.chunk.length = config.chunkSize then
    flushChunk identity config state
  else return state

/-- The rows of a result set or of a page, one after another. -/
def acceptRows (platform : Platform) (identity : RunIdentity)
    (config : RunConfig) : RunState → List SourceRow → Run RunState
  | state, [] => pure state
  | state, row :: rest => do
      let state ← acceptSourceRow platform identity config state row
      acceptRows platform identity config state rest

/-! ### Readers -/

def runCursor (platform : Platform) (table : SourceTable)
    (identity : RunIdentity) (config : RunConfig) (state : RunState) :
    Run RunState :=
  acceptRows platform identity config state (table.after state.lastCustomerId)

def fetchPage (table : SourceTable) (afterCustomerId : Option Int64)
    (pageSize : Nat) : List SourceRow :=
  (table.after afterCustomerId).take pageSize

/-- The loop of `runPaging`. -/
def pagingLoop (platform : Platform) (table : SourceTable)
    (identity : RunIdentity) (config : RunConfig)
    (readPosition : Option Int64) (state : RunState) : Run RunState :=
  let page := fetchPage table readPosition config.readBatchSize
  match _found : page.getLast? with
  | none => pure state
  | some last => do
      let state ← acceptRows platform identity config state page
      pagingLoop platform table identity config (some last.customerId) state
termination_by (table.after readPosition).length
decreasing_by exact RawSqlx.after_last_lt _found

def runPaging (platform : Platform) (table : SourceTable)
    (identity : RunIdentity) (config : RunConfig) (state : RunState) :
    Run RunState :=
  pagingLoop platform table identity config state.lastCustomerId state

/-- Read all rows after the checkpoint and commit what is left. -/
def readRows (platform : Platform) (table : SourceTable)
    (identity : RunIdentity) (config : RunConfig) (state : RunState) :
    Run RunState := do
  let state ← match config.readerMode with
    | .cursor => runCursor platform table identity config state
    | .paging => runPaging platform table identity config state
  flushChunk identity config state

def run (platform : Platform) (table : SourceTable) (config : RunConfig) :
    Run RunState := do
  let identity : RunIdentity :=
    { importName := config.importName
      sourceDigest := sourceDigest platform table.rows
      readerMode := config.readerMode
      definitionRevision := config.definitionRevision }
  let database ← Session.snapshot
  Session.ofExcept (rejectConflictingSourceIdentity identity database)
  let database ← Session.snapshot
  readRows platform table identity config
    (RunState.new (loadCheckpoint identity database))

end RawJdbc

end Projection
