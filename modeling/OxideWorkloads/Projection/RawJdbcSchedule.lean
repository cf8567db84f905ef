/-
The raw JDBC engine commits on the schedule of the raw sqlx engine.

Both engines hand the rows behind the checkpoint to a chunk buffer; a state of
one is matched with a state of the other, and every row keeps the match.
-/

import OxideWorkloads.Projection.RawJdbc
import OxideWorkloads.Projection.RawSqlxReaders

namespace Projection

open Foundation
open Foundation.Checks

/-- What a chunk transaction sends to the database. -/
structure CommittedChunk where
  rows : List ProjectedRow
  statements : List (List ProjectedRow)
  lastCustomerId : Int64
  committedChunks : Int
  committedRows : Int
  deriving DecidableEq

def RawSqlx.ChunkTransaction.committed
    (transaction : RawSqlx.ChunkTransaction) : CommittedChunk :=
  { rows := transaction.chunk
    statements := Chunks.chunks RawSqlx.rowsPerStatement transaction.chunk
    lastCustomerId := transaction.checkpoint.lastCustomerId
    committedChunks := transaction.checkpoint.committedChunks
    committedRows := transaction.checkpoint.committedRows }

def RawJdbc.ChunkTransaction.committed
    (transaction : RawJdbc.ChunkTransaction) : CommittedChunk :=
  { rows := transaction.chunk
    statements := transaction.statements
    lastCustomerId := transaction.lastCustomerId
    committedChunks := transaction.committedChunks.val
    committedRows := transaction.committedRows.val }

/-! ### Statements -/

namespace RawJdbc

theorem subLists_eq {α : Type} {size : Nat} (positive : 0 < size)
    (entries : List α) (start : Nat) :
    subLists size entries start = Chunks.chunks size (entries.drop start) := by
  induction left : entries.length - start using Nat.strongRecOn
    generalizing start
  rename_i bound ih
  rw [subLists]
  by_cases inside : start < entries.length
  · have nonempty : entries.drop start ≠ [] := by
      intro empty
      have short := List.drop_eq_nil_iff.mp empty
      omega
    have part : (entries.drop start).take
        (min (start + size) entries.length - start) =
          (entries.drop start).take size := by
      rcases Nat.le_total (start + size) entries.length with fits | beyond
      · rw [Nat.min_eq_left fits, Nat.add_sub_cancel_left]
      · rw [Nat.min_eq_right beyond, List.take_of_length_le (by
            rw [List.length_drop]), List.take_of_length_le (by
            rw [List.length_drop]
            omega)]
    rw [dif_pos ⟨positive, inside⟩, Chunks.chunks_step positive nonempty,
      List.drop_drop]
    simp only [part]
    rw [ih (entries.length - (start + size)) (by omega) (start + size) rfl]
  · rw [dif_neg (fun both => inside both.2),
      List.drop_eq_nil_of_le (Nat.le_of_not_lt inside), Chunks.chunks_nil]

theorem statements_eq (transaction : ChunkTransaction) :
    transaction.statements =
      Chunks.chunks RawSqlx.rowsPerStatement transaction.chunk :=
  subLists_eq (by decide) transaction.chunk 0

/-! ### Rows -/

/-- A row that both engines accept becomes the same row. -/
theorem project_same {platform : Platform} {importName sourceDigest : String}
    {row : SourceRow} {java sqlx : ProjectedRow}
    (javaAccepts : project platform { importName, sourceDigest } row = .ok java)
    (sqlxAccepts : RawSqlx.project platform importName sourceDigest row =
      .ok sqlx) : java = sqlx := by
  unfold project Java.project at javaAccepts
  unfold RawSqlx.project at sqlxAccepts
  simp only [bind_eq_ok, ensure_eq_ok, pure_eq_ok, exists_const]
    at javaAccepts sqlxAccepts
  obtain ⟨_, javaSame⟩ := javaAccepts
  obtain ⟨_, sqlxSame⟩ := sqlxAccepts
  rw [← javaSame, ← sqlxSame, Java.littleEndian_eq, Java.littleEndian_eq]
  rfl

theorem mapM_same {java sqlx : SourceRow → Except String ProjectedRow}
    (same : ∀ row javaRow sqlxRow, java row = .ok javaRow →
      sqlx row = .ok sqlxRow → javaRow = sqlxRow)
    {rows : List SourceRow} {javaRows sqlxRows : List ProjectedRow}
    (javaAccepts : rows.mapM java = .ok javaRows)
    (sqlxAccepts : rows.mapM sqlx = .ok sqlxRows) : javaRows = sqlxRows := by
  induction rows generalizing javaRows sqlxRows with
  | nil =>
      rw [List.mapM_nil, pure_eq_ok] at javaAccepts sqlxAccepts
      rw [← javaAccepts, ← sqlxAccepts]
  | cons row rest ih =>
      simp only [List.mapM_cons, bind_eq_ok, pure_eq_ok]
        at javaAccepts sqlxAccepts
      obtain ⟨javaRow, javaOne, javaRest, javaTail, javaCons⟩ := javaAccepts
      obtain ⟨sqlxRow, sqlxOne, sqlxRest, sqlxTail, sqlxCons⟩ := sqlxAccepts
      rw [← javaCons, ← sqlxCons, same row _ _ javaOne sqlxOne,
        ih javaTail sqlxTail]

/-! ### The two readers -/

variable {platform : Platform} {table : SourceTable} {identity : RunIdentity}
  {config : RunConfig}

theorem acceptRows_append (state : RunState) (first second : List SourceRow) :
    acceptRows platform identity config state (first ++ second) =
      acceptRows platform identity config state first >>=
        (fun state => acceptRows platform identity config state second) := by
  induction first generalizing state with
  | nil => rfl
  | cons row rest ih =>
      rw [List.cons_append, acceptRows, acceptRows, Session.bind_assoc]
      apply congrArg
      funext state
      exact ih state

theorem pagingLoop_eq (positive : 0 < config.readBatchSize)
    (position : Option Int64) (state : RunState) :
    pagingLoop platform table identity config position state =
      acceptRows platform identity config state (table.after position) := by
  induction length : (table.after position).length using Nat.strongRecOn
    generalizing position state
  rename_i bound ih
  rw [pagingLoop]
  have split := List.take_append_drop config.readBatchSize
    (table.after position)
  split
  · rename_i found
    have nothing : (table.after position).take config.readBatchSize = [] :=
      List.getLast?_eq_none_iff.mp found
    have empty : table.after position = [] := by
      rcases List.take_eq_nil_iff.mp nothing with zero | empty
      · omega
      · exact empty
    rw [empty]
    rfl
  · rename_i last found
    have shorter := RawSqlx.after_last_lt found
    have behind : table.after (some last.customerId) =
        (table.after position).drop config.readBatchSize := by
      have member : last ∈ table.after position :=
        List.mem_of_mem_take (List.mem_of_getLast? found)
      rw [RawSqlx.after_after member]
      exact RawSqlx.above_last (RawSqlx.after_ascending table position) found
    conv => rhs; rw [← split, acceptRows_append]
    apply congrArg
    funext state
    rw [← behind]
    apply ih _ _ _ _ rfl
    omega

/-- What is read does not depend on the reader. -/
theorem readRows_eq (positive : 0 < config.readBatchSize) (state : RunState) :
    readRows platform table identity config state =
      acceptRows platform identity config state
          (table.after state.lastCustomerId) >>=
        flushChunk identity config := by
  unfold readRows
  cases config.readerMode with
  | cursor => rfl
  | paging =>
      dsimp only
      rw [runPaging, pagingLoop_eq positive]

/-! ### The schedule -/

/-- No failure is injected and no pause configured. -/
def RunConfig.Uninterrupted (config : RunConfig) : Prop :=
  config.failAfterChunk = none ∧ config.pauseAtChunk = none

/-- A state of each engine with the same progress. -/
structure Matches (java : RunState) (sqlx : RawSqlx.RunState) : Prop where
  position : java.lastCustomerId = sqlx.durablePosition
  committedChunks : java.committedChunks.val = sqlx.committedChunks
  committedRows : java.committedRows.val = sqlx.committedRows
  chunk : java.chunk = sqlx.chunk

/-- So many chunks and rows more can be counted. -/
def Counts (sqlx : RawSqlx.RunState) (chunks rows : Nat) : Prop :=
  (sqlx.committedChunks + chunks : Int) ≤ i64Max ∧
    (sqlx.committedRows + rows : Int) ≤ i64Max

theorem addExact_fits {left : Bigint} {value right : Nat}
    (same : left.val = value) (fits : (value + right : Int) ≤ i64Max) :
    ∃ sum : Bigint, addExact left right = .ok sum ∧
      sum.val = (value + right : Nat) := by
  have low : i64Min ≤ (value + right : Int) := by
    have bound : i64Min = -9223372036854775808 := rfl
    omega
  refine ⟨⟨value + right, low, fits⟩, ?_, ?_⟩
  · unfold addExact
    rw [require_eq_ok, Word.toBigint?_eq_some, same]
  · rfl

/-- A flush of a chunk, in both engines. -/
theorem flushChunk_matches (quiet : config.Uninterrupted) {java : RunState}
    {sqlx : RawSqlx.RunState} (same : Matches java sqlx)
    (nonempty : sqlx.chunk ≠ []) (counts : Counts sqlx 1 sqlx.chunk.length) :
    ∃ transaction after,
      flushChunk identity config java = .submit transaction (.done after) ∧
        transaction.committed =
          { rows := sqlx.chunk
            statements :=
              Chunks.chunks RawSqlx.rowsPerStatement sqlx.chunk
            lastCustomerId := RawSqlx.lastId sqlx.chunk
            committedChunks := (sqlx.committedChunks + 1 : Nat)
            committedRows := (sqlx.committedRows + sqlx.chunk.length : Nat) } ∧
        Matches after (RawSqlx.stateAfter sqlx sqlx.chunk) := by
  obtain ⟨nextChunks, chunksAdd, chunksVal⟩ :=
    @addExact_fits _ _ 1 same.committedChunks counts.1
  obtain ⟨nextRows, rowsAdd, rowsVal⟩ :=
    addExact_fits same.committedRows counts.2
  rw [← same.chunk] at nonempty rowsAdd
  cases found : java.chunk.getLast? with
  | none => exact absurd (List.getLast?_eq_none_iff.mp found) nonempty
  | some last =>
      have id : RawSqlx.lastId sqlx.chunk = last.customerId := by
        rw [RawSqlx.lastId, ← same.chunk, found]
        rfl
      let transaction : ChunkTransaction :=
        { identity
          failAfterChunk := none
          chunk := java.chunk
          lastCustomerId := last.customerId
          committedChunks := nextChunks
          committedRows := nextRows }
      let after : RunState :=
        { lastCustomerId := some last.customerId
          committedChunks := nextChunks
          committedRows := nextRows
          chunk := [] }
      refine ⟨transaction, after, ?_, ?_, ?_⟩
      · have chunksOk : addExact java.committedChunks 1 = .ok nextChunks :=
          chunksAdd
        have calm : ∀ phase,
            pauseRequested config nextChunks.val phase = false := by
          intro phase
          rw [pauseRequested, quiet.2]
          apply decide_eq_false
          intro both
          cases both.1
        unfold flushChunk commitChunk
        simp only [found, chunksOk, rowsAdd, Session.ofExcept,
          Session.done_bind, calm, quiet.1]
        rfl
      · rw [ChunkTransaction.committed, statements_eq, id, ← same.chunk]
        simp only [transaction, chunksVal, rowsVal, same.chunk]
      · constructor
        · rw [RawSqlx.stateAfter, id]
        · exact chunksVal
        · exact rowsVal
        · rfl

/-- Rows that both engines accept, whatever the buffers hold at first: the
same chunks are committed, and so many more chunks still fit. -/
theorem acceptRows_matches (quiet : config.Uninterrupted)
    (sqlxIdentity : RawSqlx.ExecutionIdentity) {extra : Nat}
    {rows : List SourceRow} {projected : List ProjectedRow}
    (accepted : rows.mapM (project platform identity.toExecutionIdentity) =
      .ok projected) {java : RunState} {sqlx : RawSqlx.RunState}
    (same : Matches java sqlx)
    (counts : Counts sqlx
      ((Chunks.fill config.chunkSize sqlx.chunk projected).1.length + extra)
      (sqlx.chunk.length + projected.length)) :
    ∃ transactions after,
      acceptRows platform identity config java rows =
          Session.submitAll transactions (.done after) ∧
        transactions.map ChunkTransaction.committed =
          (RawSqlx.schedule sqlxIdentity sqlx
            (Chunks.fill config.chunkSize sqlx.chunk projected).1).map
              RawSqlx.ChunkTransaction.committed ∧
        ∃ final : RawSqlx.RunState, final =
            { (Chunks.fill config.chunkSize sqlx.chunk projected).1.foldl
                RawSqlx.stateAfter sqlx with
              chunk := (Chunks.fill config.chunkSize sqlx.chunk
                projected).2 } ∧
          Matches after final ∧ Counts final extra final.chunk.length := by
  induction rows generalizing projected java sqlx with
  | nil =>
      rw [List.mapM_nil, pure_eq_ok] at accepted
      rw [← accepted] at counts ⊢
      rw [List.length_nil, Chunks.fill, List.length_nil, Nat.zero_add,
        Nat.add_zero] at counts
      exact ⟨[], java, rfl, rfl, sqlx, rfl, same, counts⟩
  | cons row rest ih =>
      rw [List.mapM_cons, bind_eq_ok] at accepted
      obtain ⟨first, one, accepted⟩ := accepted
      rw [bind_eq_ok] at accepted
      obtain ⟨others, tail, cons⟩ := accepted
      rw [pure_eq_ok] at cons
      subst cons
      have length : (sqlx.chunk ++ [first]).length =
          sqlx.chunk.length + 1 := by
        rw [List.length_append, List.length_singleton]
      have buffered : Matches { java with chunk := java.chunk ++ [first] }
          { sqlx with chunk := sqlx.chunk ++ [first] } := by
        constructor
        · exact same.position
        · exact same.committedChunks
        · exact same.committedRows
        · exact congrArg (fun chunk => chunk ++ [first]) same.chunk
      have accepts : acceptSourceRow platform identity config java row =
          if sqlx.chunk.length + 1 = config.chunkSize then
            flushChunk identity config
              { java with chunk := java.chunk ++ [first] }
          else pure { java with chunk := java.chunk ++ [first] } := by
        unfold acceptSourceRow
        rw [one, ← length, ← same.chunk]
        rfl
      rw [acceptRows, accepts]
      by_cases full : sqlx.chunk.length + 1 = config.chunkSize
      · have filled : Chunks.fill config.chunkSize sqlx.chunk
            (first :: others) =
            ((sqlx.chunk ++ [first]) ::
                (Chunks.fill config.chunkSize [] others).1,
              (Chunks.fill config.chunkSize [] others).2) := by
          rw [Chunks.fill, if_pos full]
        rw [filled] at counts ⊢
        rw [if_pos full]
        rw [List.length_cons, List.length_cons] at counts
        have nonempty : sqlx.chunk ++ [first] ≠ [] := by
          intro empty
          rw [empty, List.length_nil] at length
          omega
        obtain ⟨transaction, after, flushed, committed, matched⟩ :=
          @flushChunk_matches identity config quiet _ _ buffered nonempty (by
            constructor
            · have room := counts.1
              simp only at room ⊢
              omega
            · have room := counts.2
              simp only [length] at room ⊢
              omega)
        have left : Counts (RawSqlx.stateAfter
            { sqlx with chunk := sqlx.chunk ++ [first] } (sqlx.chunk ++ [first]))
            ((Chunks.fill config.chunkSize [] others).1.length + extra)
            (([] : List ProjectedRow).length + others.length) := by
          constructor
          · have room := counts.1
            simp only [RawSqlx.stateAfter] at room ⊢
            omega
          · have room := counts.2
            simp only [RawSqlx.stateAfter, length, List.length_nil] at room ⊢
            omega
        obtain ⟨transactions, last, runs, maps, final, ends, lastSame, room⟩ :=
          ih tail matched left
        refine ⟨transaction :: transactions, last, ?_, ?_, final, ?_, lastSame,
          room⟩
        · rw [flushed, Session.submit_bind, Session.done_bind, runs]
          rfl
        · rw [List.map_cons, committed, maps]
          rfl
        · rw [ends]
          rfl
      · have filled : Chunks.fill config.chunkSize sqlx.chunk
            (first :: others) =
            Chunks.fill config.chunkSize (sqlx.chunk ++ [first]) others := by
          rw [Chunks.fill, if_neg full]
        rw [filled] at counts ⊢
        rw [if_neg full, Session.pure_bind]
        have left : Counts { sqlx with chunk := sqlx.chunk ++ [first] }
            ((Chunks.fill config.chunkSize (sqlx.chunk ++ [first])
              others).1.length + extra)
            ((sqlx.chunk ++ [first]).length + others.length) := by
          rw [length]
          rw [List.length_cons] at counts
          constructor
          · exact counts.1
          · have room := counts.2
            simp only at room ⊢
            omega
        obtain ⟨transactions, last, runs, maps, final, ends, lastSame, room⟩ :=
          ih tail buffered left
        refine ⟨transactions, last, runs, ?_, final, ?_, lastSame, room⟩
        · rw [maps, RawSqlx.schedule_chunk]
        · rw [ends, RawSqlx.foldl_stateAfter_chunk]

/-- The last flush commits what is left, if anything is. -/
theorem flushChunk_rest (quiet : config.Uninterrupted)
    (sqlxIdentity : RawSqlx.ExecutionIdentity) {java : RunState}
    {sqlx : RawSqlx.RunState} (same : Matches java sqlx)
    (counts : Counts sqlx (if sqlx.chunk = [] then 0 else 1)
      sqlx.chunk.length) :
    ∃ transactions after,
      flushChunk identity config java =
          Session.submitAll transactions (.done after) ∧
        transactions.map ChunkTransaction.committed =
          (RawSqlx.schedule sqlxIdentity sqlx
            (if sqlx.chunk = [] then [] else [sqlx.chunk])).map
              RawSqlx.ChunkTransaction.committed := by
  by_cases empty : sqlx.chunk = []
  · have nothing : java.chunk = [] := same.chunk.trans empty
    refine ⟨[], java, ?_, ?_⟩
    · unfold flushChunk
      rw [nothing]
      rfl
    · rw [if_pos empty]
      rfl
  · rw [if_neg empty] at counts ⊢
    obtain ⟨transaction, after, flushed, committed, _⟩ :=
      @flushChunk_matches identity config quiet java sqlx same empty counts
    refine ⟨[transaction], after, flushed, ?_⟩
    rw [List.map_singleton, committed]
    rfl

/-- The two checkpoints say the same. -/
structure Checkpoint.Same (java : Checkpoint)
    (sqlx : Option Int64 × Nat × Nat) : Prop where
  position : java.lastCustomerId = sqlx.1
  committedChunks : java.committedChunks.val = sqlx.2.1
  committedRows : java.committedRows.val = sqlx.2.2

theorem Checkpoint.Same.matches {java : Checkpoint}
    {sqlx : Option Int64 × Nat × Nat} (same : java.Same sqlx) :
    Matches (RunState.new java) (RawSqlx.RunState.new sqlx) := by
  constructor
  · exact same.position
  · exact same.committedChunks
  · exact same.committedRows
  · rfl

theorem withRest_length (parts : List (List ProjectedRow) × List ProjectedRow) :
    (Chunks.withRest parts).length =
      parts.1.length + (if parts.2 = [] then 0 else 1) := by
  unfold Chunks.withRest
  rw [List.length_append]
  split
  · rfl
  · rfl

theorem readRows_schedule (quiet : config.Uninterrupted)
    (batchSize : 0 < config.readBatchSize)
    (sqlxIdentity : RawSqlx.ExecutionIdentity) {java : Checkpoint}
    {sqlx : Option Int64 × Nat × Nat} (same : java.Same sqlx)
    {projected : List ProjectedRow}
    (accepted : (table.after sqlx.1).mapM
      (project platform identity.toExecutionIdentity) = .ok projected)
    (counts : Counts (RawSqlx.RunState.new sqlx)
      (Chunks.chunks config.chunkSize projected).length projected.length) :
    ∃ transactions after,
      readRows platform table identity config (RunState.new java) =
          Session.submitAll transactions (.done after) ∧
        transactions.map ChunkTransaction.committed =
          (RawSqlx.schedule sqlxIdentity (RawSqlx.RunState.new sqlx)
            (Chunks.chunks config.chunkSize projected)).map
              RawSqlx.ChunkTransaction.committed := by
  have started : (RawSqlx.RunState.new sqlx).chunk = [] := rfl
  rw [Chunks.chunks, withRest_length] at counts
  obtain ⟨full, middle, runs, maps, final, ends, finalSame, room⟩ :=
    @acceptRows_matches platform identity config quiet sqlxIdentity _ _ _
      accepted _ _ same.matches (by
        rw [started, List.length_nil, Nat.zero_add]
        exact counts)
  rw [started] at maps ends
  have left : final.chunk =
      (Chunks.fill config.chunkSize [] projected).2 := by
    rw [ends]
  rw [← left] at room
  obtain ⟨last, after, flushed, lastMaps⟩ :=
    @flushChunk_rest identity config quiet sqlxIdentity _ _ finalSame room
  refine ⟨full ++ last, after, ?_, ?_⟩
  · rw [readRows_eq batchSize]
    change acceptRows platform identity config (RunState.new java)
      (table.after java.lastCustomerId) >>= flushChunk identity config = _
    rw [same.position, runs, Session.submitAll_bind, Session.done_bind,
      flushed, Session.submitAll_append]
  · have behind : ∀ groups,
        RawSqlx.schedule sqlxIdentity final groups =
          RawSqlx.schedule sqlxIdentity
            ((Chunks.fill config.chunkSize [] projected).1.foldl
              RawSqlx.stateAfter (RawSqlx.RunState.new sqlx)) groups := by
      intro groups
      rw [ends]
      exact RawSqlx.schedule_chunk _ _ groups
    rw [List.map_append, maps, lastMaps, behind, left, ← List.map_append,
      ← RawSqlx.schedule_append]
    rfl

/-! ### Whole runs -/

open RawSqlx (Database)

def identityOf (platform : Platform) (table : SourceTable)
    (config : RunConfig) : RunIdentity :=
  { importName := config.importName
    sourceDigest := sourceDigest platform table.rows
    readerMode := config.readerMode
    definitionRevision := config.definitionRevision }

/-- A run gets past its checks on a database and loads this checkpoint. -/
structure Begins (platform : Platform) (table : SourceTable)
    (options : Options) (database : Database) (config : RunConfig)
    (checkpoint : Checkpoint) : Prop where
  valid : RunConfig.parse options = .ok config
  admitted : rejectConflictingSourceIdentity
    (identityOf platform table config) database = .ok ()
  loaded : loadCheckpoint (identityOf platform table config) database =
    checkpoint

theorem positiveInt_pos {raw : Option Int} {key : String}
    {defaultValue maximum : Int} {value : Nat}
    (valid : positiveInt raw key defaultValue maximum = .ok value) :
    0 < value := by
  unfold positiveInt at valid
  simp only [bind_eq_ok, ensure_eq_ok, pure_eq_ok, exists_const] at valid
  obtain ⟨bounds, same⟩ := valid
  omega

theorem readBatchSize_pos {options : Options}
    (valid : RunConfig.parse options = .ok config) :
    0 < config.readBatchSize := by
  unfold RunConfig.parse at valid
  simp only [bind_eq_ok, ensure_eq_ok, pure_eq_ok, exists_const] at valid
  obtain ⟨_, _, _, _, reader, _, _, _, _, _, readBatchSize, batch, _, _, _, _,
    _, _, _, same⟩ := valid
  rw [← same]
  unfold readBatchSizeOf at batch
  cases reader with
  | cursor => exact positiveInt_pos batch
  | paging => exact positiveInt_pos batch

theorem run_answered {options : Options} {database : Database}
    {checkpoint : Checkpoint}
    (begins : Begins platform table options database config checkpoint) :
    (run platform table config).answered database =
      (readRows platform table (identityOf platform table config) config
        (RunState.new checkpoint)).answered database := by
  have steps : run platform table config =
      .ask (fun first =>
        Session.ofExcept (rejectConflictingSourceIdentity
          (identityOf platform table config) first) >>= fun _ =>
        .ask (fun second =>
          readRows platform table (identityOf platform table config) config
            (RunState.new (loadCheckpoint
              (identityOf platform table config) second)))) :=
    rfl
  rw [steps]
  simp only [Session.answered, begins.admitted, begins.loaded,
    Session.ofExcept, Session.done_bind]

/-- Uninterrupted runs of both engines from checkpoints that say the same,
with readers of any kind and size: they commit the same chunks by the same
statements and with the same checkpoints, all of them or those before a
refused one. -/
theorem commits_same {args : RawSqlx.RunArgs} {options : Options}
    {sqlxDatabase database : Database} {sqlxConfig : RawSqlx.RunConfig}
    {sqlxCheckpoint : Option Int64 × Nat × Nat} {checkpoint : Checkpoint}
    (sqlxBegins : RawSqlx.Begins platform table args sqlxDatabase sqlxConfig
      sqlxCheckpoint)
    (begins : Begins platform table options database config checkpoint)
    (imports : config.importName = args.importName)
    (sizes : config.chunkSize = args.chunkSize)
    (same : checkpoint.Same sqlxCheckpoint)
    (sqlxQuiet : sqlxConfig.Uninterrupted) (quiet : config.Uninterrupted)
    {sqlxRows rows : List ProjectedRow}
    (sqlxAccepted : (table.after sqlxCheckpoint.1).mapM
      (RawSqlx.project platform args.importName
        (compute platform table.rows)) = .ok sqlxRows)
    (accepted : (table.after sqlxCheckpoint.1).mapM
      (project platform
        (identityOf platform table config).toExecutionIdentity) = .ok rows)
    (counts : Counts (RawSqlx.RunState.new sqlxCheckpoint)
      (Chunks.chunks args.chunkSize sqlxRows).length sqlxRows.length) :
    ∃ sqlxTransactions transactions sqlxAfter after,
      (RawSqlx.run platform table args).answered sqlxDatabase =
          Session.submitAll sqlxTransactions (.done sqlxAfter) ∧
        (run platform table config).answered database =
          Session.submitAll transactions (.done after) ∧
        transactions.map ChunkTransaction.committed =
          sqlxTransactions.map RawSqlx.ChunkTransaction.committed ∧
        (∀ transaction ∈ transactions, ∀ statement ∈ transaction.statements,
          statement.length ≤ RawSqlx.rowsPerStatement) ∧
        ∀ refused : Option Nat,
          ((run platform table config).durable database refused).map
              ChunkTransaction.committed =
            ((RawSqlx.run platform table args).durable sqlxDatabase
              refused).map RawSqlx.ChunkTransaction.committed := by
  have digests : sourceDigest platform table.rows =
      compute platform table.rows := by
    rw [sourceDigest, sourceStream_eq]
    rfl
  have rowsSame : rows = sqlxRows :=
    mapM_same (by
      intro row java sqlx javaAccepts sqlxAccepts
      rw [← imports, ← digests] at sqlxAccepts
      exact project_same javaAccepts sqlxAccepts) accepted sqlxAccepted
  rw [rowsSame] at accepted
  rw [← sizes] at counts
  obtain ⟨transactions, after, reads, maps⟩ :=
    @readRows_schedule platform table (identityOf platform table config) config
      quiet (readBatchSize_pos begins.valid)
      (RawSqlx.identityOf platform table args) checkpoint sqlxCheckpoint same
      sqlxRows accepted counts
  have sqlxRuns := RawSqlx.run_accepted sqlxBegins sqlxQuiet sqlxAccepted
  have runs : (run platform table config).answered database =
      Session.submitAll transactions (.done after) := by
    rw [run_answered begins, reads, Session.answered_submitAll]
    rfl
  rw [sizes] at maps
  refine ⟨_, transactions, _, after, sqlxRuns, runs, maps, ?_, ?_⟩
  · intro transaction _ statement member
    rw [statements_eq] at member
    exact (Chunks.chunks_splits (by decide) transaction.chunk).bounded
      statement member
  · intro refused
    rw [← Session.durable_answered, runs, Session.durable_submitAll,
      ← Session.durable_answered, sqlxRuns, Session.durable_submitAll]
    cases refused with
    | none => exact maps
    | some position =>
        dsimp only
        rw [List.map_take, maps, List.map_take]

def pagesOfTwo : Options :=
  { importName := some "import"
    reader := some "paging"
    chunkSize := some 2
    fetchSize := none
    pageSize := some 2
    failAfterChunk := none
    pauseAtChunk := none
    pausePhase := none
    pauseMarker := none }

def pagesOfTwoConfig : RunConfig :=
  { importName := "import"
    readerMode := .paging
    chunkSize := 2
    readBatchSize := 2
    failAfterChunk := none
    pauseAtChunk := none
    pausePhase := none
    pauseMarker := none }

/-- Three rows in chunks of two: a cursor that fetches row by row, and pages of
two; the second commit is refused. -/
theorem commits_same_three :
    ∃ sqlxTransactions transactions sqlxAfter after,
      (RawSqlx.run asciiPlatform RawSqlx.threeRows
        (RawSqlx.argsOf .cursor (some 1) none)).answered
          RawSqlx.Database.empty =
            Session.submitAll sqlxTransactions (.done sqlxAfter) ∧
        (run asciiPlatform RawSqlx.threeRows pagesOfTwoConfig).answered
          RawSqlx.Database.empty =
            Session.submitAll transactions (.done after) ∧
        transactions.map ChunkTransaction.committed =
          sqlxTransactions.map RawSqlx.ChunkTransaction.committed ∧
        ((run asciiPlatform RawSqlx.threeRows pagesOfTwoConfig).durable
            RawSqlx.Database.empty (some 1)).map ChunkTransaction.committed =
          ((RawSqlx.run asciiPlatform RawSqlx.threeRows
            (RawSqlx.argsOf .cursor (some 1) none)).durable
              RawSqlx.Database.empty (some 1)).map
                RawSqlx.ChunkTransaction.committed := by
  have begins : Begins asciiPlatform RawSqlx.threeRows pagesOfTwo
      RawSqlx.Database.empty pagesOfTwoConfig ⟨none, zero, zero⟩ :=
    ⟨rfl, rfl, rfl⟩
  have sqlxBegins : RawSqlx.Begins asciiPlatform RawSqlx.threeRows
      (RawSqlx.argsOf .cursor (some 1) none) RawSqlx.Database.empty
      ⟨.cursor, 2, 1, none, none⟩ (none, 0, 0) :=
    ⟨by decide, rfl, rfl⟩
  obtain ⟨_, _, _, _, sqlxRuns, runs, same, _, durable⟩ :=
    commits_same sqlxBegins begins rfl rfl ⟨rfl, rfl, rfl⟩ ⟨rfl, rfl⟩
      ⟨rfl, rfl⟩ rfl rfl (by
        constructor
        · decide
        · decide)
  exact ⟨_, _, _, _, sqlxRuns, runs, same, durable (some 1)⟩

end RawJdbc

end Projection
