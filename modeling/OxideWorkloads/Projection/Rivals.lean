/-
The raw engines on one destination.

Both engines insert into one projection table, whose primary key is the import
name, the source digest and the customer id; each engine keeps a checkpoint
table of its own, with one row for each of its readers.  So runs that import
one source under one name are rivals for the rows, also when they do not see
each other's checkpoints.
-/

import OxideWorkloads.Foundation.KeyedRows
import OxideWorkloads.Foundation.PrefixRace
import OxideWorkloads.Projection.RawJdbcSchedule
import OxideWorkloads.Projection.RawSqlxExact

namespace Projection

open Foundation
open Foundation.Checks

/-! ### The destination of both engines -/

structure TargetTables where
  projections : List ProjectedRow
  rawCheckpoints : List RawSqlx.CheckpointRow
  javaCheckpoints : List RawSqlx.CheckpointRow

/-- The tables that the raw sqlx engine works on. -/
def TargetTables.rawSqlx (destination : TargetTables) : RawSqlx.Database :=
  { projections := destination.projections
    checkpoints := destination.rawCheckpoints }

/-- The tables that the raw JDBC engine works on. -/
def TargetTables.rawJdbc (destination : TargetTables) : RawSqlx.Database :=
  { projections := destination.projections
    checkpoints := destination.javaCheckpoints }

inductive Commit where
  | rawSqlx (transaction : RawSqlx.ChunkTransaction)
  | rawJdbc (transaction : RawJdbc.ChunkTransaction)

def Commit.apply : Commit → TargetTables → Except String TargetTables
  | .rawSqlx transaction, destination => do
      let after ← transaction.apply destination.rawSqlx
      return { destination with
        projections := after.projections
        rawCheckpoints := after.checkpoints }
  | .rawJdbc transaction, destination => do
      let after ← transaction.apply destination.rawJdbc
      return { destination with
        projections := after.projections
        javaCheckpoints := after.checkpoints }

/-- An engine with one of its readers. -/
inductive Writer where
  | rawSqlx (reader : RawSqlx.ReaderMode)
  | rawJdbc (reader : RawJdbc.ReaderMode)
  deriving DecidableEq

def RawJdbc.ReaderMode.definitionRevision : RawJdbc.ReaderMode → String
  | .cursor => RawJdbc.cursorDefinitionRevision
  | .paging => RawJdbc.pagingDefinitionRevision

/-- The identity of the runs of the raw JDBC engine. -/
def RawJdbc.identityFor (importName sourceDigest : String)
    (reader : RawJdbc.ReaderMode) : RawJdbc.RunIdentity :=
  { importName
    sourceDigest
    readerMode := reader
    definitionRevision := reader.definitionRevision }

namespace TargetTables

variable (destination : TargetTables) (importName sourceDigest : String)

/-- The rows of a scope, in the order of their insertion. -/
def rowsOf : List ProjectedRow :=
  destination.projections.filter (fun row =>
    row.importName = importName ∧ row.sourceDigest = sourceDigest)

def checkpointOf : Writer → Option RawSqlx.CheckpointRow
  | .rawSqlx reader => destination.rawCheckpoints.find? (fun row =>
      row.belongsTo { importName, sourceDigest, readerMode := reader })
  | .rawJdbc reader => destination.javaCheckpoints.find? (fun row =>
      RawJdbc.belongsTo row
        (RawJdbc.identityFor importName sourceDigest reader))

/-- Nothing of a scope is there. -/
def Fresh : Prop :=
  destination.rowsOf importName sourceDigest = [] ∧
    ∀ writer, destination.checkpointOf importName sourceDigest writer = none

end TargetTables

/-- The runs of both engines that import a source under a name. -/
inductive Rival (platform : Platform) (table : SourceTable)
    (importName : String) :
    Session TargetTables Commit String Unit → Prop where
  | rawSqlx (args : RawSqlx.RunArgs) (imports : args.importName = importName) :
      Rival platform table importName
        ((RawSqlx.run platform table args).within TargetTables.rawSqlx
          Commit.rawSqlx)
  | rawJdbc {options : RawJdbc.Options} {config : RawJdbc.RunConfig}
      (parsed : RawJdbc.RunConfig.parse options = .ok config)
      (imports : config.importName = importName) :
      Rival platform table importName
        ((RawJdbc.run platform table config).within TargetTables.rawJdbc
          Commit.rawJdbc)

/-! ### What a commit writes -/

/-- The row that a source row becomes, in a scope. -/
def projectionOf (platform : Platform) (importName sourceDigest : String)
    (row : SourceRow) : ProjectedRow :=
  let fields := transformRow platform row
  { importName
    sourceDigest
    customerId := row.customerId
    displayName := fields.displayName
    loyaltyScore := fields.loyaltyScore
    isPremium := fields.isPremium
    rowFingerprint := fields.rowFingerprint }

namespace Commit

def writer : Commit → Writer
  | .rawSqlx transaction => .rawSqlx transaction.identity.readerMode
  | .rawJdbc transaction => .rawJdbc transaction.identity.readerMode

def importName : Commit → String
  | .rawSqlx transaction => transaction.identity.importName
  | .rawJdbc transaction => transaction.identity.importName

def sourceDigest : Commit → String
  | .rawSqlx transaction => transaction.identity.sourceDigest
  | .rawJdbc transaction => transaction.identity.sourceDigest

def content : Commit → CommittedChunk
  | .rawSqlx transaction => transaction.committed
  | .rawJdbc transaction => transaction.committed

/-- The revision of a checkpoint is that of its reader. -/
def Regular : Commit → Prop
  | .rawSqlx _ => True
  | .rawJdbc transaction => transaction.identity.definitionRevision =
      transaction.identity.readerMode.definitionRevision

end Commit

theorem RawSqlx.upsertCheckpoint_eq (identity : RawSqlx.ExecutionIdentity)
    (row : RawSqlx.CheckpointRow) (rows : List RawSqlx.CheckpointRow) :
    RawSqlx.upsertCheckpoint identity row rows =
      KeyedRows.upsert (fun other => other.belongsTo identity)
        (fun other => { other with
          lastCustomerId := row.lastCustomerId
          committedChunks := row.committedChunks
          committedRows := row.committedRows }) row rows := by
  induction rows with
  | nil => rfl
  | cons other rest ih => rw [upsertCheckpoint, KeyedRows.upsert, ih]

theorem RawJdbc.upsertCheckpoint_eq (identity : RawJdbc.RunIdentity)
    (row : RawSqlx.CheckpointRow) (rows : List RawSqlx.CheckpointRow) :
    RawJdbc.upsertCheckpoint identity row rows =
      KeyedRows.upsert (fun other => RawJdbc.belongsTo other identity)
        (fun other => { other with
          lastCustomerId := row.lastCustomerId
          committedChunks := row.committedChunks
          committedRows := row.committedRows }) row rows := by
  induction rows with
  | nil => rfl
  | cons other rest ih => rw [upsertCheckpoint, KeyedRows.upsert, ih]

theorem RawJdbc.insertBatches_eq_ok {database after : RawSqlx.Database}
    {batches : List (List ProjectedRow)}
    (inserts : batches.foldlM RawJdbc.insertBatch database = .ok after) :
    after = { database with
        projections := database.projections ++ batches.flatten } ∧
      ∀ row ∈ batches.flatten, ∀ other ∈ database.projections,
        RawSqlx.sameKey row other = false := by
  induction batches generalizing database with
  | nil =>
      rw [List.foldlM_nil, pure_eq_ok] at inserts
      rw [← inserts, List.flatten_nil, List.append_nil]
      refine ⟨rfl, ?_⟩
      intro row member
      cases member
  | cons batch rest ih =>
      rw [List.foldlM_cons, bind_eq_ok] at inserts
      obtain ⟨middle, first, others⟩ := inserts
      unfold RawJdbc.insertBatch at first
      simp only [bind_eq_ok, ensure_eq_ok, pure_eq_ok, exists_const] at first
      obtain ⟨_, projections, inserted, between⟩ := first
      obtain ⟨appended, free⟩ := RawSqlx.insertRows_eq_ok inserted
      obtain ⟨last, freeLater⟩ := ih others
      rw [← between, appended] at last freeLater
      constructor
      · rw [last, List.flatten_cons, List.append_assoc]
      · intro row member other inRows
        rw [List.flatten_cons] at member
        rcases List.mem_append.mp member with now | later
        · exact free row now other inRows
        · exact freeLater row later other (List.mem_append_left _ inRows)

/-- The values of a checkpoint that a commit writes. -/
structure CommittedChunk.Recorded (content : CommittedChunk)
    (row : RawSqlx.CheckpointRow) : Prop where
  lastCustomerId : row.lastCustomerId = content.lastCustomerId
  committedChunks : row.committedChunks.val = content.committedChunks
  committedRows : row.committedRows.val = content.committedRows

/-- A table of checkpoints before and after a commit of a writer. -/
theorem find_recorded {mine : RawSqlx.CheckpointRow → Bool}
    {row : RawSqlx.CheckpointRow} {content : CommittedChunk}
    (recorded : content.Recorded row) (fits : mine row = true)
    (keeps : ∀ other : RawSqlx.CheckpointRow, mine other = true →
      mine { other with
        lastCustomerId := row.lastCustomerId
        committedChunks := row.committedChunks
        committedRows := row.committedRows } = true)
    (rows : List RawSqlx.CheckpointRow) :
    ∃ written, (KeyedRows.upsert mine (fun other => { other with
          lastCustomerId := row.lastCustomerId
          committedChunks := row.committedChunks
          committedRows := row.committedRows }) row rows).find? mine =
        some written ∧ content.Recorded written := by
  obtain ⟨written, found, isRow | ⟨other, isUpdate⟩⟩ :=
    KeyedRows.find_upsert fits keeps rows
  · rw [isRow] at found
    exact ⟨row, found, recorded⟩
  · refine ⟨written, found, ?_⟩
    rw [isUpdate]
    exact ⟨recorded.lastCustomerId, recorded.committedChunks,
      recorded.committedRows⟩

end Projection
