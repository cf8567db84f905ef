/-
The runs of both engines as writers of one prefix.

A run that has loaded its checkpoint either owns the prefix and knows all of
it, or starts from nothing and is refused at its first row.
-/

import OxideWorkloads.Projection.RivalsExact

namespace Projection

open Foundation
open Foundation.Checks

/-- The destination of an import as a store of prefixes of its source. -/
def prefixStore (platform : Platform) (table : SourceTable)
    (importName : String) (initial : TargetTables) :
    PrefixStore TargetTables Commit String Writer where
  apply := Commit.apply
  total := table.rows.length
  committed := fun destination =>
    (destination.imported platform table importName).length
  writer := Commit.writer
  Standing := Prefixed platform table importName initial
  Continues := Continues platform table importName
  bounded := Prefixed.bounded
  owned := Continues.writer
  positive := Continues.positive
  current := Continues.current
  commits := Continues.commits

variable {platform : Platform} {table : SourceTable} {importName : String}
  {initial : TargetTables} {shared : Shared TargetTables Commit}

/-! ### Loading -/

/-- What a writer finds: its checkpoint is that of the prefix, or it has none
and somebody else has written the prefix. -/
theorem reads_of_kept
    (kept : (prefixStore platform table importName initial).Kept shared)
    (writer : Writer) :
    ∃ known chunks,
      (prefixStore platform table importName initial).Reads shared writer known
        chunks ∧
      known ≤ table.rows.length ∧ chunks ≤ known ∧
      ((shared.store.checkpointOf importName (compute platform table.rows)
            writer = none ∧ known = 0 ∧ chunks = 0) ∨
        ∃ row, shared.store.checkpointOf importName
            (compute platform table.rows) writer = some row ∧
          CheckpointAt table known chunks row) := by
  have standing : Prefixed platform table importName initial shared :=
    kept.standing
  by_cases owner : ∃ commit ∈ shared.log, commit.writer = writer
  · obtain ⟨commit, member, isWriter⟩ := owner
    obtain ⟨row, found, here⟩ := standing.owner commit member
    rw [isWriter] at found
    refine ⟨_, _, ⟨⟨Nat.le_refl _, fun _ => rfl, ?_⟩, fun _ => rfl⟩,
      standing.bounded, standing.counted, Or.inr ⟨row, found, here⟩⟩
    intro _ earlier before
    rw [← isWriter]
    exact kept.single earlier before commit member
  · have apart : ∀ commit ∈ shared.log, commit.writer ≠ writer := by
      intro commit member same
      exact owner ⟨commit, member, same⟩
    refine ⟨0, 0, ?_, Nat.zero_le _, Nat.le_refl _,
      Or.inl ⟨standing.others writer apart, rfl, rfl⟩⟩
    have nothing : 0 =
        (shared.store.imported platform table importName).length →
          shared.log = [] := by
      intro zero
      exact standing.unused.mpr zero.symm
    refine ⟨⟨Nat.zero_le _, ?_, ?_⟩, ?_⟩
    · intro zero
      rw [nothing zero]
      rfl
    · intro zero earlier member
      rw [nothing zero] at member
      cases member
    · intro all
      apply Eq.symm
      apply standing.unused.mp
      apply List.eq_nil_iff_forall_not_mem.mpr
      intro commit member
      exact apart commit member (all commit member)

/-- The rows behind a checkpoint. -/
theorem CheckpointAt.after {count chunks : Nat} {row : RawSqlx.CheckpointRow}
    (here : CheckpointAt table count chunks row) :
    table.after (some row.lastCustomerId) = table.rows.drop count := by
  rw [← here.position, RawSqlx.after_prefix]

/-! ### The raw sqlx engine -/

namespace RawSqlx

theorem project_of_ok {name digest : String} {row : SourceRow}
    {projected : ProjectedRow}
    (accepted : project platform name digest row = .ok projected) :
    projected = projectionOf platform name digest row := by
  unfold project at accepted
  simp only [bind_eq_ok, ensure_eq_ok, pure_eq_ok, exists_const] at accepted
  exact accepted.2.symm

theorem projectAll_of_ok {identity : ExecutionIdentity}
    {rows : List SourceRow} {projected : List ProjectedRow}
    (accepted : projectAll platform identity rows = .ok projected) :
    projected = rows.map (projectionOf platform identity.importName
      identity.sourceDigest) := by
  unfold projectAll at accepted
  rw [mapM_eq_ok] at accepted
  induction accepted with
  | nil => rfl
  | cons one _ ih => rw [project_of_ok one, List.map_cons, ih]

/-- What the engine does on its own tables, on all of them. -/
theorem NextChunk.continues {reader : ReaderMode}
    {known chunks size : Nat} {transaction : ChunkTransaction}
    (next : NextChunk platform table
      (sourceIdentity platform table importName reader) known chunks size
      transaction) :
    Continues platform table importName (.rawSqlx reader) known chunks size
      (.rawSqlx transaction) := by
  have owner := next.owner
  constructor
  · exact next.positive
  · exact next.bounded
  · exact trivial
  · rw [Commit.writer, owner]
    rfl
  · rw [Commit.importName, owner]
    rfl
  · rw [Commit.sourceDigest, owner]
    rfl
  · exact projectAll_of_ok next.chunk
  · exact next.last
  · change (transaction.checkpoint.committedChunks : Int) = _
    rw [next.committedChunks]
  · change (transaction.checkpoint.committedRows : Int) = _
    rw [next.committedRows]

theorem Follows.follows {reader : ReaderMode} {known chunks : Nat}
    {session : Run RunState}
    (follows : Follows platform table
      (sourceIdentity platform table importName reader) known chunks
      session) :
    Session.Follows (fun known chunks size transaction =>
        NextChunk platform table
          (sourceIdentity platform table importName reader) known chunks size
          transaction)
      table.rows.length known chunks session := by
  induction session generalizing known chunks with
  | done value => exact follows
  | failed error => exact trivial
  | pending => exact trivial
  | ask next ih =>
      intro store
      exact ih store (follows store)
  | submit transaction next ih =>
      obtain ⟨size, continues, later⟩ := follows
      exact ⟨size, continues, ih later⟩

/-- A run that starts to read behind a prefix. -/
theorem readRows_reads {reader : ReaderMode} {config : RunConfig}
    (batchSize : 0 < config.readBatchSize) {known : Nat}
    (bounded : known ≤ table.rows.length)
    {checkpoint : Option Int64 × Nat × Nat}
    (behind : table.after checkpoint.1 = table.rows.drop known)
    (rows : checkpoint.2.2 = known) :
    Follows platform table (sourceIdentity platform table importName reader)
      known checkpoint.2.1
      (readRows platform table
        (sourceIdentity platform table importName reader) config
        (RunState.new checkpoint)) := by
  have position : table.after (RunState.new checkpoint).durablePosition =
      table.rows.drop (known + 0) := behind
  rw [readRows_eq batchSize, position]
  apply @acceptRows_follows platform table _ config _ known _ 0
  · constructor
    · rfl
    · exact rows
    · exact bounded
    · rfl
  · rfl

/-- A run of the engine has read nothing when it starts. -/
theorem unloaded_within (args : RunArgs) :
    (prefixStore platform table args.importName initial).Unloaded
      (.rawSqlx args.reader)
      ((run platform table args).within TargetTables.rawSqlx
        Commit.rawSqlx) := by
  cases valid : validateRunArgs args with
  | error error =>
      unfold run
      rw [valid]
      trivial
  | ok config =>
      have batchSize := (readBatchSize_pos valid).2.2.2
      rw [run_valid valid]
      intro first _
      apply Or.inl
      dsimp only
      cases rejectConflictingSourceIdentity (identityOf platform table args)
          first.store.rawSqlx with
      | error error => trivial
      | ok admitted =>
          intro shared kept
          cases loaded : loadCheckpoint (identityOf platform table args)
              shared.store.rawSqlx with
          | error error =>
              apply Or.inl
              dsimp only
              rw [loaded]
              trivial
          | ok checkpoint =>
              apply Or.inr
              dsimp only
              rw [loaded]
              obtain ⟨position, absent, present⟩ := loadCheckpoint_eq loaded
              change checkpoint.1 = Option.map _
                (shared.store.checkpointOf args.importName
                  (compute platform table.rows) (.rawSqlx args.reader))
                at position
              obtain ⟨known, chunks, read, bounded, _, finds⟩ :=
                reads_of_kept kept (.rawSqlx args.reader)
              have reads : table.after checkpoint.1 = table.rows.drop known ∧
                  checkpoint.2.1 = chunks ∧ checkpoint.2.2 = known := by
                rcases finds with nothing | something
                · obtain ⟨missing, zero, none_⟩ := nothing
                  have pair := absent missing
                  rw [missing] at position
                  rw [position, pair, zero, none_]
                  exact ⟨rfl, rfl, rfl⟩
                · obtain ⟨row, found, here⟩ := something
                  have counts := present row found
                  have stored := here.committedChunks
                  have storedRows := here.committedRows
                  rw [found] at position
                  rw [position, Option.map_some, here.after]
                  exact ⟨rfl, by omega, by omega⟩
              have follows := @readRows_reads platform table args.importName
                args.reader config batchSize known bounded checkpoint reads.1
                reads.2.2
              rw [reads.2.1] at follows
              exact ⟨known, chunks, read,
                Session.Follows.within (fun _ _ _ _ next => next.continues)
                  follows.follows⟩

end RawSqlx

/-! ### The raw JDBC engine -/

namespace RawJdbc

theorem project_of_ok {identity : RawJdbc.ExecutionIdentity} {row : SourceRow}
    {projected : ProjectedRow}
    (accepted : project platform identity row = .ok projected) :
    projected = projectionOf platform identity.importName
      identity.sourceDigest row := by
  unfold project Java.project at accepted
  simp only [bind_eq_ok, ensure_eq_ok, pure_eq_ok, exists_const] at accepted
  rw [← accepted.2, Java.littleEndian_eq, Java.littleEndian_eq]
  rfl

/-- What continues a prefix, of a run of this engine. -/
def Continuing (platform : Platform) (table : SourceTable)
    (importName : String) (reader : ReaderMode) (config : RunConfig)
    (known chunks size : Nat) (transaction : ChunkTransaction) : Prop :=
  Continues platform table importName (.rawJdbc reader) known chunks size
      (.rawJdbc transaction) ∧
    transaction.failAfterChunk = config.failAfterChunk

/-- The identity of the runs on a source. -/
def sourceIdentity (platform : Platform) (table : SourceTable)
    (importName : String) (reader : ReaderMode) : RunIdentity :=
  identityFor importName (compute platform table.rows) reader

/-- The state of a run that knows a prefix and holds the rows behind it. -/
structure Holding (platform : Platform) (table : SourceTable)
    (importName : String) (state : RunState) (known chunks size : Nat) :
    Prop where
  committedChunks : state.committedChunks.val = chunks
  committedRows : state.committedRows.val = known
  bounded : known + size ≤ table.rows.length
  chunk : state.chunk = projections platform table importName
    ((table.rows.drop known).take size)

variable {reader : ReaderMode} {config : RunConfig} {state : RunState}
  {known chunks size : Nat}

theorem Holding.length
    (holding : Holding platform table importName state known chunks size) :
    state.chunk.length = size := by
  have bounded := holding.bounded
  rw [holding.chunk, projections, List.length_map, List.length_take,
    List.length_drop]
  omega

theorem addExact_eq_ok {left sum : Bigint} {right : Int}
    (added : addExact left right = .ok sum) : sum.val = left.val + right := by
  unfold addExact at added
  rw [require_eq_ok, Word.toBigint?_eq_some] at added
  exact added

/-- The transaction of a full or last chunk, and what follows it. -/
theorem flushChunk_follows {next : RunState → Run RunState}
    (holding : Holding platform table importName state known chunks size)
    (positive : 0 < size)
    (later : ∀ after, Holding platform table importName after (known + size)
      (chunks + 1) 0 →
        (next after).Follows (Continuing platform table importName reader config)
          table.rows.length (known + size) (chunks + 1)) :
    (flushChunk (sourceIdentity platform table importName reader) config
        state >>= next).Follows
      (Continuing platform table importName reader config) table.rows.length known
        chunks := by
  have length := holding.length
  unfold flushChunk
  cases found : state.chunk.getLast? with
  | none =>
      rw [List.getLast?_eq_none_iff.mp found, List.length_nil] at length
      omega
  | some last =>
      dsimp only
      cases chunksAdded : addExact state.committedChunks 1 with
      | error error => trivial
      | ok nextChunks =>
          cases rowsAdded : addExact state.committedRows
              state.chunk.length with
          | error error => trivial
          | ok nextRows =>
              have chunksValue := addExact_eq_ok chunksAdded
              have rowsValue := addExact_eq_ok rowsAdded
              rw [holding.committedChunks] at chunksValue
              rw [holding.committedRows, length] at rowsValue
              have ids : ((table.rows.drop known).take size).getLast?.map
                  (fun row => row.customerId) = some last.customerId := by
                have mapped := found
                rw [holding.chunk, projections, List.getLast?_map] at mapped
                cases lastRow : ((table.rows.drop known).take
                    size).getLast? with
                | none =>
                    rw [lastRow] at mapped
                    cases mapped
                | some row =>
                    rw [lastRow, Option.map_some, Option.some.injEq] at mapped
                    rw [Option.map_some, ← mapped]
                    rfl
              simp only [Session.ofExcept, Session.done_bind]
              unfold commitChunk
              dsimp only
              split
              · -- the run hangs before its commit
                intro database
                dsimp only
                split
                · trivial
                · trivial
              · refine ⟨size, ⟨?_, rfl⟩, ?_⟩
                · constructor
                  · exact positive
                  · exact holding.bounded
                  · rfl
                  · rfl
                  · rfl
                  · rfl
                  · exact holding.chunk
                  · exact ids
                  · exact chunksValue
                  · exact rowsValue
                · split
                  · trivial
                  · apply later
                    constructor
                    · exact chunksValue
                    · exact rowsValue
                    · exact holding.bounded
                    · rfl

theorem acceptRows_follows (rows : List SourceRow)
    (holding : Holding platform table importName state known chunks size)
    (behind : table.rows.drop (known + size) = rows) :
    (acceptRows platform (sourceIdentity platform table importName reader)
        config state rows >>=
      flushChunk (sourceIdentity platform table importName reader)
        config).Follows
      (Continuing platform table importName reader config) table.rows.length known
        chunks := by
  induction rows generalizing state known chunks size with
  | nil =>
      have bounded := holding.bounded
      have whole : table.rows.length ≤ known + size :=
        List.drop_eq_nil_iff.mp behind
      rw [acceptRows, Session.pure_bind]
      by_cases nothing : size = 0
      · have empty : state.chunk = [] := by
          apply List.length_eq_zero_iff.mp
          rw [holding.length, nothing]
        unfold flushChunk
        rw [empty]
        change known = table.rows.length
        omega
      · rw [← Session.bind_pure (flushChunk _ config state)]
        apply flushChunk_follows holding (by omega)
        intro after _
        change known + size = table.rows.length
        omega
  | cons row rest ih =>
      rw [acceptRows, Session.bind_assoc]
      unfold acceptSourceRow
      cases accepted : project platform
          (sourceIdentity platform table importName
            reader).toExecutionIdentity row with
      | error error => trivial
      | ok projected =>
          have inside : known + size < table.rows.length := by
            by_contra beyond
            rw [List.drop_eq_nil_of_le (by omega)] at behind
            cases behind
          have here : (table.rows.drop known)[size]? = some row := by
            rw [List.getElem?_drop, ← List.head?_drop, behind]
            rfl
          have more : Holding platform table importName
              { state with chunk := state.chunk ++ [projected] } known chunks
                (size + 1) := by
            constructor
            · exact holding.committedChunks
            · exact holding.committedRows
            · omega
            · rw [List.take_add_one, here, project_of_ok accepted,
                holding.chunk, projections, projections, List.map_append]
              rfl
          have next : table.rows.drop (known + (size + 1)) = rest := by
            rw [← Nat.add_assoc, ← List.tail_drop, behind]
            rfl
          simp only [Session.ofExcept, Session.done_bind]
          split
          · apply flushChunk_follows more (Nat.succ_pos size)
            intro after holds
            apply ih holds
            exact next
          · exact ih more next

theorem revision_eq (config : RunConfig) :
    config.definitionRevision = config.readerMode.definitionRevision := by
  unfold RunConfig.definitionRevision
  cases config.readerMode with
  | cursor => rfl
  | paging => rfl

/-- A run that starts to read behind a prefix. -/
theorem readRows_reads (batchSize : 0 < config.readBatchSize)
    (bounded : known ≤ table.rows.length) {checkpoint : Checkpoint}
    (behind : table.after checkpoint.lastCustomerId = table.rows.drop known)
    (chunkCount : checkpoint.committedChunks.val = chunks)
    (rowCount : checkpoint.committedRows.val = known) :
    (readRows platform table (sourceIdentity platform table importName reader)
        config (RunState.new checkpoint)).Follows
      (Continuing platform table importName reader config) table.rows.length
        known chunks := by
  have position : table.after (RunState.new checkpoint).lastCustomerId =
      table.rows.drop (known + 0) := behind
  rw [readRows_eq batchSize, position]
  apply @acceptRows_follows platform table importName reader config _ known
    chunks 0
  · constructor
    · exact chunkCount
    · exact rowCount
    · exact bounded
    · rfl
  · rfl

theorem identityOf_eq (config : RunConfig) :
    identityOf platform table config =
      sourceIdentity platform table config.importName config.readerMode := by
  have digest : sourceDigest platform table.rows =
      compute platform table.rows := by
    rw [sourceDigest, sourceStream_eq]
    rfl
  rw [identityOf, digest, revision_eq]
  rfl

/-- The checkpoint that is loaded is the one of the writer. -/
theorem loadCheckpoint_at {destination : TargetTables}
    (finds : (destination.checkpointOf importName
          (compute platform table.rows) (.rawJdbc reader) = none ∧
        known = 0 ∧ chunks = 0) ∨
      ∃ row, destination.checkpointOf importName
          (compute platform table.rows) (.rawJdbc reader) = some row ∧
        CheckpointAt table known chunks row) :
    let checkpoint := loadCheckpoint
      (sourceIdentity platform table importName reader) destination.rawJdbc
    table.after checkpoint.lastCustomerId = table.rows.drop known ∧
      checkpoint.committedChunks.val = chunks ∧
      checkpoint.committedRows.val = known := by
  unfold loadCheckpoint
  rcases finds with nothing | something
  · obtain ⟨missing, zero, none_⟩ := nothing
    change destination.rawJdbc.checkpoints.find? _ = none at missing
    rw [sourceIdentity, missing, zero, none_]
    exact ⟨rfl, rfl, rfl⟩
  · obtain ⟨row, found, here⟩ := something
    change destination.rawJdbc.checkpoints.find? _ = some row at found
    rw [sourceIdentity, found]
    exact ⟨here.after, here.committedChunks, here.committedRows⟩

theorem unloaded_within {options : Options}
    (parsed : RunConfig.parse options = .ok config) :
    (prefixStore platform table config.importName initial).Unloaded
      (.rawJdbc config.readerMode)
      ((run platform table config).within TargetTables.rawJdbc
        Commit.rawJdbc) := by
  have steps : run platform table config =
      .ask (fun first =>
        Session.ofExcept (rejectConflictingSourceIdentity
          (identityOf platform table config) first) >>= fun _ =>
        .ask (fun second =>
          readRows platform table (identityOf platform table config) config
            (RunState.new (loadCheckpoint
              (identityOf platform table config) second)))) :=
    rfl
  rw [steps, identityOf_eq]
  intro first _
  apply Or.inl
  dsimp only
  cases rejectConflictingSourceIdentity
      (sourceIdentity platform table config.importName config.readerMode)
      first.store.rawJdbc with
  | error error => trivial
  | ok admitted =>
      intro shared kept
      apply Or.inr
      obtain ⟨known, chunks, read, bounded, _, finds⟩ :=
        reads_of_kept kept (.rawJdbc config.readerMode)
      refine ⟨known, chunks, read, ?_⟩
      obtain ⟨behind, chunkCount, rowCount⟩ := loadCheckpoint_at finds
      have reads := @readRows_reads platform table config.importName
        config.readerMode config known chunks (readBatchSize_pos parsed)
        bounded _ behind chunkCount rowCount
      exact Session.Follows.within (fun _ _ _ _ next => next.1) reads

end RawJdbc

end Projection
