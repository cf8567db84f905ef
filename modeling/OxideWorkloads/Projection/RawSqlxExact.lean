/-
The committed rows of an identity are always the projections of a prefix of
the source, and the checkpoint says which, whatever the order of the runs.

A run knows a prefix and how many chunks led to it.  Its next transaction
starts behind the prefix it knows; if another run has committed since, the
first row of the chunk is taken already and the transaction is refused.
-/

import OxideWorkloads.Projection.RawSqlxReaders

namespace Projection

open Foundation
open Foundation.Checks

namespace RawSqlx

/-! ### What is committed -/

/-- The destination rows of an identity, in the order of their insertion. -/
def Database.rowsOf (database : Database) (identity : ExecutionIdentity) :
    List ProjectedRow :=
  database.projections.filter (fun row =>
    row.importName = identity.importName ∧
      row.sourceDigest = identity.sourceDigest)

def Database.checkpointOf (database : Database)
    (identity : ExecutionIdentity) : Option CheckpointRow :=
  database.checkpoints.find? (fun row => row.belongsTo identity)

/-- The projections of rows, if all are accepted. -/
def projectAll (platform : Platform) (identity : ExecutionIdentity)
    (rows : List SourceRow) : Except String (List ProjectedRow) :=
  rows.mapM (project platform identity.importName identity.sourceDigest)

/-- The first rows of the source are projected, each once; the checkpoint has
the last of them, their number and the number of the transactions. -/
structure Exact (platform : Platform) (table : SourceTable)
    (identity : ExecutionIdentity)
    (shared : Shared Database ChunkTransaction) (count : Nat) : Prop where
  bounded : count ≤ table.rows.length
  rows : projectAll platform identity (table.rows.take count) =
    .ok (shared.store.rowsOf identity)
  position : (shared.store.checkpointOf identity).map
      (fun row => row.lastCustomerId) =
    (table.rows.take count).getLast?.map (fun row => row.customerId)
  counts : ∀ row, shared.store.checkpointOf identity = some row →
    row.committedChunks.val = shared.log.length ∧
      row.committedRows.val = count
  unused : count = 0 → shared.log = []

/-- Nothing is committed for an identity. -/
def Database.Fresh (database : Database) (identity : ExecutionIdentity) :
    Prop :=
  database.rowsOf identity = [] ∧ database.checkpointOf identity = none

variable {platform : Platform} {table : SourceTable}
  {identity : ExecutionIdentity} {config : RunConfig}

theorem Database.Fresh.exact {database : Database}
    (fresh : database.Fresh identity) :
    Exact platform table identity { store := database, log := [] } 0 := by
  constructor
  · exact Nat.zero_le _
  · rw [fresh.1]
    rfl
  · rw [fresh.2]
    rfl
  · intro row found
    rw [fresh.2] at found
    cases found
  · intro _
    rfl

/-! ### The transaction -/

theorem insertRows_eq_ok {rows inserted after : List ProjectedRow}
    (inserts : insertRows rows inserted = .ok after) :
    after = rows ++ inserted ∧
      ∀ row ∈ inserted, ∀ other ∈ rows, sameKey row other = false := by
  induction inserted generalizing rows with
  | nil =>
      rw [insertRows, Except.ok.injEq] at inserts
      rw [← inserts, List.append_nil]
      refine ⟨rfl, ?_⟩
      intro row member
      cases member
  | cons first rest ih =>
      rw [insertRows] at inserts
      by_cases taken : rows.any (sameKey first) = true
      · rw [if_pos taken] at inserts
        cases inserts
      · rw [if_neg taken] at inserts
        obtain ⟨same, free⟩ := ih inserts
        constructor
        · rw [same, List.append_assoc, List.singleton_append]
        · intro row member other inRows
          rcases List.mem_cons.mp member with isFirst | later
          · rw [isFirst]
            apply Bool.eq_false_iff.mpr
            intro equal
            exact taken (List.any_eq_true.mpr ⟨other, inRows, equal⟩)
          · exact free row later other (List.mem_append_left _ inRows)

theorem insertBatch_eq_ok {database after : Database}
    {batch : List ProjectedRow}
    (inserts : insertBatch database batch = .ok after) :
    after = { database with projections := database.projections ++ batch } ∧
      ∀ row ∈ batch, ∀ other ∈ database.projections,
        sameKey row other = false := by
  unfold insertBatch at inserts
  simp only [bind_eq_ok, ensure_eq_ok, pure_eq_ok, exists_const] at inserts
  obtain ⟨_, projections, inserted, same⟩ := inserts
  obtain ⟨appended, free⟩ := insertRows_eq_ok inserted
  exact ⟨by rw [← same, appended], free⟩

theorem insertBatches_eq_ok {database after : Database}
    {batches : List (List ProjectedRow)}
    (inserts : batches.foldlM insertBatch database = .ok after) :
    after = { database with
        projections := database.projections ++ batches.flatten } ∧
      ∀ row ∈ batches.flatten, ∀ other ∈ database.projections,
        sameKey row other = false := by
  induction batches generalizing database with
  | nil =>
      rw [List.foldlM_nil, pure_eq_ok] at inserts
      rw [← inserts, List.flatten_nil, List.append_nil]
      refine ⟨rfl, ?_⟩
      intro row member
      cases member
  | cons batch rest ih =>
      rw [List.foldlM_cons, bind_eq_ok] at inserts
      obtain ⟨middle, first, others⟩ := inserts
      obtain ⟨between, free⟩ := insertBatch_eq_ok first
      obtain ⟨last, freeLater⟩ := ih others
      rw [between] at last freeLater
      constructor
      · rw [last, List.flatten_cons, List.append_assoc]
      · intro row member other inRows
        rw [List.flatten_cons] at member
        rcases List.mem_append.mp member with now | later
        · exact free row now other inRows
        · exact freeLater row later other (List.mem_append_left _ inRows)

/-- The checkpoint that a transaction writes is the one found afterwards. -/
theorem find_upsertCheckpoint {row : CheckpointRow}
    (belongs : row.belongsTo identity = true) (rows : List CheckpointRow) :
    ∃ written, (upsertCheckpoint identity row rows).find?
        (fun row => row.belongsTo identity) = some written ∧
      written.lastCustomerId = row.lastCustomerId ∧
      written.committedChunks = row.committedChunks ∧
      written.committedRows = row.committedRows := by
  induction rows with
  | nil =>
      refine ⟨row, ?_, rfl, rfl, rfl⟩
      rw [upsertCheckpoint, List.find?_cons, belongs]
  | cons other rest ih =>
      rw [upsertCheckpoint]
      by_cases found : other.belongsTo identity = true
      · have still : CheckpointRow.belongsTo
            { other with
              lastCustomerId := row.lastCustomerId
              committedChunks := row.committedChunks
              committedRows := row.committedRows } identity = true := found
        refine ⟨{ other with
          lastCustomerId := row.lastCustomerId
          committedChunks := row.committedChunks
          committedRows := row.committedRows }, ?_, rfl, rfl, rfl⟩
        rw [if_pos found, List.find?_cons, still]
      · rw [if_neg found, List.find?_cons]
        rw [Bool.eq_false_iff.mpr found]
        exact ih

theorem apply_eq_ok {transaction : ChunkTransaction} {database after : Database}
    (applied : transaction.apply database = .ok after) :
    after.projections = database.projections ++ transaction.chunk ∧
      (∀ row ∈ transaction.chunk, ∀ other ∈ database.projections,
        sameKey row other = false) ∧
      ∃ written, after.checkpointOf transaction.identity = some written ∧
        written.lastCustomerId = transaction.checkpoint.lastCustomerId ∧
        written.committedChunks.val =
          transaction.checkpoint.committedChunks ∧
        written.committedRows.val = transaction.checkpoint.committedRows := by
  unfold ChunkTransaction.apply at applied
  simp only [bind_eq_ok, ensure_eq_ok, require_eq_ok, pure_eq_ok,
    exists_const, Word.toBigint?_eq_some] at applied
  obtain ⟨written, inserts, _, chunks, chunksValue, rows, rowsValue, same⟩ :=
    applied
  obtain ⟨between, free⟩ := insertBatches_eq_ok inserts
  have positive : 0 < rowsPerStatement := by decide
  have whole := (Chunks.chunks_splits positive transaction.chunk).whole
  rw [whole] at between free
  rw [← same, between]
  refine ⟨rfl, free, ?_⟩
  have belongs : CheckpointRow.belongsTo
      { importName := transaction.identity.importName
        sourceDigest := transaction.identity.sourceDigest
        readerMode := transaction.identity.readerMode.asStr
        definitionRevision := transaction.identity.definitionRevision
        lastCustomerId := transaction.checkpoint.lastCustomerId
        committedChunks := chunks
        committedRows := rows } transaction.identity = true := by
    simp [CheckpointRow.belongsTo]
  obtain ⟨row, found, last, chunksSame, rowsSame⟩ :=
    find_upsertCheckpoint belongs database.checkpoints
  refine ⟨row, found, last, ?_, ?_⟩
  · rw [chunksSame]
    exact chunksValue
  · rw [rowsSame]
    exact rowsValue

/-! ### What a run does next -/

/-- The next transaction of a run that knows a prefix and the number of chunks
that led to it. -/
structure NextChunk (platform : Platform) (table : SourceTable)
    (identity : ExecutionIdentity) (count chunks size : Nat)
    (transaction : ChunkTransaction) : Prop where
  positive : 0 < size
  bounded : count + size ≤ table.rows.length
  owner : transaction.identity = identity
  chunk : projectAll platform identity ((table.rows.drop count).take size) =
    .ok transaction.chunk
  last : ((table.rows.drop count).take size).getLast?.map
      (fun row => row.customerId) =
    some transaction.checkpoint.lastCustomerId
  committedChunks : transaction.checkpoint.committedChunks = chunks + 1
  committedRows : transaction.checkpoint.committedRows = count + size

/-- What a run that knows a prefix does from then on: its transactions continue
the prefix, and it returns when the prefix is the whole source. -/
def Follows (platform : Platform) (table : SourceTable)
    (identity : ExecutionIdentity) :
    Nat → Nat → Run RunState → Prop
  | count, _, .done _ => count = table.rows.length
  | _, _, .failed _ => True
  | _, _, .pending => True
  | count, chunks, .ask next =>
      ∀ database, Follows platform table identity count chunks (next database)
  | count, chunks, .submit transaction next =>
      ∃ size, NextChunk platform table identity count chunks size
          transaction ∧
        Follows platform table identity (count + size) (chunks + 1) next

/-- A run that has not loaded its checkpoint yet: it fails, or it asks until it
knows what is committed. -/
def Unloaded (platform : Platform) (table : SourceTable)
    (identity : ExecutionIdentity) : Run RunState → Prop
  | .done _ => False
  | .failed _ => True
  | .pending => True
  | .ask next =>
      ∀ shared count, Exact platform table identity shared count →
        Unloaded platform table identity (next shared.store) ∨
          Follows platform table identity count shared.log.length
            (next shared.store)
  | .submit _ _ => False

/-! ### A commit continues the prefix -/

theorem project_eq_ok {importName digest : String} {row : SourceRow}
    {projected : ProjectedRow}
    (accepted : project platform importName digest row = .ok projected) :
    projected.importName = importName ∧ projected.sourceDigest = digest ∧
      projected.customerId = row.customerId := by
  unfold project at accepted
  simp only [bind_eq_ok, ensure_eq_ok, pure_eq_ok, exists_const] at accepted
  obtain ⟨_, same⟩ := accepted
  rw [← same]
  exact ⟨rfl, rfl, rfl⟩

theorem projectAll_append {first second : List SourceRow}
    {firstRows secondRows : List ProjectedRow}
    (one : projectAll platform identity first = .ok firstRows)
    (two : projectAll platform identity second = .ok secondRows) :
    projectAll platform identity (first ++ second) =
      .ok (firstRows ++ secondRows) := by
  unfold projectAll at *
  rw [mapM_eq_ok] at *
  exact List.rel_append one two

theorem projectAll_owned {rows : List SourceRow}
    {projected : List ProjectedRow}
    (accepted : projectAll platform identity rows = .ok projected) :
    projected.filter (fun row => row.importName = identity.importName ∧
      row.sourceDigest = identity.sourceDigest) = projected := by
  apply List.filter_eq_self.mpr
  intro row member
  obtain ⟨source, _, accepted⟩ :=
    exists_of_forall₂ (mapM_eq_ok.mp accepted) member
  obtain ⟨imports, digest, _⟩ := project_eq_ok accepted
  exact decide_eq_true ⟨imports, digest⟩

/-- A transaction behind a prefix that is no longer the last one is refused:
its first row is taken. -/
theorem NextChunk.current {count known chunks size : Nat}
    {transaction : ChunkTransaction}
    {shared : Shared Database ChunkTransaction} {after : Database}
    (next : NextChunk platform table identity known chunks size transaction)
    (exact : Exact platform table identity shared count)
    (behind : known ≤ count)
    (applied : transaction.apply shared.store = .ok after) :
    known = count := by
  by_contra differ
  have positive := next.positive
  have bounded := next.bounded
  have inside : known < table.rows.length := by omega
  have inPrefix : table.rows[known] ∈ table.rows.take count := by
    apply List.mem_take_iff_getElem.mpr
    exact ⟨known, by omega, rfl⟩
  have inChunk : table.rows[known] ∈ (table.rows.drop known).take size := by
    rw [List.drop_eq_getElem_cons inside]
    cases size with
    | zero => omega
    | succ less => exact List.mem_cons_self
  obtain ⟨stored, inStore, accepted⟩ :=
    exists_of_forall₂_left (mapM_eq_ok.mp exact.rows) inPrefix
  obtain ⟨added, inAdded, acceptedAgain⟩ :=
    exists_of_forall₂_left (mapM_eq_ok.mp next.chunk) inChunk
  rw [accepted, Except.ok.injEq] at acceptedAgain
  have taken := (apply_eq_ok applied).2.1 added inAdded stored
    (List.mem_filter.mp inStore).1
  rw [acceptedAgain] at taken
  simp [sameKey] at taken

theorem NextChunk.commits {count size : Nat}
    {transaction : ChunkTransaction}
    {shared : Shared Database ChunkTransaction} {after : Database}
    (next : NextChunk platform table identity count shared.log.length size
      transaction)
    (exact : Exact platform table identity shared count)
    (applied : transaction.apply shared.store = .ok after) :
    Exact platform table identity
      { store := after, log := shared.log ++ [transaction] }
      (count + size) := by
  obtain ⟨appended, _, written, found, last, chunks, rows⟩ :=
    apply_eq_ok applied
  rw [next.owner] at found
  have split : table.rows.take (count + size) =
      table.rows.take count ++ (table.rows.drop count).take size :=
    List.take_add
  constructor
  · exact next.bounded
  · have stored : after.rowsOf identity =
        shared.store.rowsOf identity ++ transaction.chunk := by
      unfold Database.rowsOf
      rw [appended, List.filter_append, projectAll_owned next.chunk]
    rw [split, stored]
    exact projectAll_append exact.rows next.chunk
  · have nonempty : (table.rows.drop count).take size ≠ [] := by
      intro empty
      have last := next.last
      rw [empty] at last
      cases last
    rw [found, split, List.getLast?_append_of_ne_nil _ nonempty, next.last,
      Option.map_some, last]
  · intro row same
    rw [found, Option.some.injEq] at same
    rw [← same, chunks, rows, next.committedChunks, next.committedRows,
      List.length_append, List.length_singleton]
    exact ⟨rfl, rfl⟩
  · intro zero
    have positive := next.positive
    omega

/-! ### A run continues the prefix it knows -/

/-- The state of a run that knows a prefix and holds the rows behind it. -/
structure Holding (platform : Platform) (table : SourceTable)
    (identity : ExecutionIdentity) (state : RunState)
    (count chunks size : Nat) : Prop where
  committedChunks : state.committedChunks = chunks
  committedRows : state.committedRows = count
  bounded : count + size ≤ table.rows.length
  chunk : projectAll platform identity ((table.rows.drop count).take size) =
    .ok state.chunk

variable {state : RunState} {count chunks size : Nat}

theorem Holding.length
    (holding : Holding platform table identity state count chunks size) :
    state.chunk.length = size := by
  have pairs := (mapM_eq_ok.mp holding.chunk).length_eq
  have bounded := holding.bounded
  rw [List.length_take, List.length_drop] at pairs
  omega

theorem projectAll_ids {rows : List SourceRow} {projected : List ProjectedRow}
    (accepted : projectAll platform identity rows = .ok projected) :
    projected.map (fun row => row.customerId) =
      rows.map (fun row => row.customerId) := by
  apply map_eq_of_forall₂
  apply (mapM_eq_ok.mp accepted).imp
  intro source row one
  exact (project_eq_ok one).2.2

theorem commitChunk_follows {chunk : List ProjectedRow}
    {checkpoint : CheckpointUpdate} {next : Unit → Run RunState}
    (continues : NextChunk platform table identity count chunks size
      { identity
        failAfterChunk := config.failAfterChunk
        chunk
        checkpoint })
    (later : Follows platform table identity (count + size) (chunks + 1)
      (next ())) :
    Follows platform table identity count chunks
      (commitChunk identity config chunk checkpoint >>= next) := by
  unfold commitChunk
  dsimp only
  split
  · -- the run hangs before its commit
    rw [Session.ask_bind]
    intro database
    dsimp only
    split
    · trivial
    · trivial
  · refine ⟨size, continues, ?_⟩
    split
    · trivial
    · exact later

/-- The transaction of a full or last chunk, and what follows it. -/
theorem flushChunk_follows {next : RunState → Run RunState}
    (holding : Holding platform table identity state count chunks size)
    (positive : 0 < size)
    (later : ∀ after, Holding platform table identity after (count + size)
      (chunks + 1) 0 →
        Follows platform table identity (count + size) (chunks + 1)
          (next after)) :
    Follows platform table identity count chunks
      (flushChunk identity config state >>= next) := by
  have length := holding.length
  cases found : state.chunk.getLast? with
  | none =>
      rw [List.getLast?_eq_none_iff.mp found, List.length_nil] at length
      omega
  | some last =>
      have ids := congrArg List.getLast? (projectAll_ids holding.chunk)
      rw [List.getLast?_map, List.getLast?_map, found, Option.map_some] at ids
      unfold flushChunk
      rw [found]
      dsimp only
      rw [Session.bind_assoc]
      apply commitChunk_follows
      · constructor
        · exact positive
        · exact holding.bounded
        · rfl
        · exact holding.chunk
        · exact ids.symm
        · rw [holding.committedChunks]
        · rw [holding.committedRows, length]
      · apply later
        constructor
        · rw [holding.committedChunks]
        · rw [holding.committedRows, length]
        · exact holding.bounded
        · rfl

theorem flushChunk_empty (empty : state.chunk = []) :
    flushChunk identity config state = pure state := by
  unfold flushChunk
  rw [empty]
  rfl

theorem acceptRows_follows (rows : List SourceRow)
    (holding : Holding platform table identity state count chunks size)
    (behind : table.rows.drop (count + size) = rows) :
    Follows platform table identity count chunks
      (acceptRows platform identity config state rows >>=
        flushChunk identity config) := by
  induction rows generalizing state count chunks size with
  | nil =>
      have bounded := holding.bounded
      have whole : table.rows.length ≤ count + size :=
        List.drop_eq_nil_iff.mp behind
      rw [acceptRows, Session.pure_bind]
      by_cases nothing : size = 0
      · have empty : state.chunk = [] := by
          apply List.length_eq_zero_iff.mp
          rw [holding.length, nothing]
        rw [flushChunk_empty empty]
        change count = table.rows.length
        omega
      · rw [← Session.bind_pure (flushChunk identity config state)]
        apply flushChunk_follows holding (by omega)
        intro after _
        change count + size = table.rows.length
        omega
  | cons row rest ih =>
      rw [acceptRows, Session.bind_assoc]
      cases accepted : project platform identity.importName
          identity.sourceDigest row with
      | error error =>
          rw [acceptSourceRow_rejected accepted, Session.failed_bind]
          trivial
      | ok projected =>
          have inside : count + size < table.rows.length := by
            by_contra beyond
            rw [List.drop_eq_nil_of_le (by omega)] at behind
            cases behind
          have here : (table.rows.drop count)[size]? = some row := by
            rw [List.getElem?_drop, ← List.head?_drop, behind]
            rfl
          have more : Holding platform table identity
              { state with chunk := state.chunk ++ [projected] } count chunks
                (size + 1) := by
            constructor
            · exact holding.committedChunks
            · exact holding.committedRows
            · omega
            · rw [List.take_add_one, here]
              apply projectAll_append holding.chunk
              rw [projectAll, Option.toList_some, List.mapM_cons, accepted]
              rfl
          have next : table.rows.drop (count + (size + 1)) = rest := by
            rw [← Nat.add_assoc, ← List.tail_drop, behind]
            rfl
          rw [acceptSourceRow_eq accepted]
          split
          · apply flushChunk_follows more (Nat.succ_pos size)
            intro after holds
            apply ih holds
            exact next
          · exact ih more next

/-! ### From the checkpoint on -/

/-- The rows after the last of a prefix are those behind the prefix. -/
theorem after_prefix (table : SourceTable) (count : Nat) :
    table.after ((table.rows.take count).getLast?.map
        (fun row => row.customerId)) =
      table.rows.drop count := by
  cases found : (table.rows.take count).getLast? with
  | none =>
      have nothing := List.getLast?_eq_none_iff.mp found
      rcases List.take_eq_nil_iff.mp nothing with zero | empty
      · rw [zero, List.drop_zero]
        rfl
      · rw [empty, List.drop_nil]
        exact empty
  | some last =>
      rw [Option.map_some]
      exact above_last table.ascending found

theorem loadCheckpoint_eq {database : Database}
    {checkpoint : Option Int64 × Nat × Nat}
    (loaded : loadCheckpoint identity database = .ok checkpoint) :
    checkpoint.1 = (database.checkpointOf identity).map
        (fun row => row.lastCustomerId) ∧
      (database.checkpointOf identity = none → checkpoint.2 = (0, 0)) ∧
      ∀ row, database.checkpointOf identity = some row →
        row.committedChunks.val = checkpoint.2.1 ∧
          row.committedRows.val = checkpoint.2.2 := by
  have count : ∀ (value : Bigint) (number : Nat),
      toCount? value = some number → value.val = number := by
    intro value number converted
    unfold toCount? at converted
    split at converted
    · rw [Option.some.injEq] at converted
      omega
    · cases converted
  unfold loadCheckpoint at loaded
  unfold Database.checkpointOf
  cases found : database.checkpoints.find?
      (fun row => row.belongsTo identity) with
  | none =>
      rw [found, Except.ok.injEq] at loaded
      rw [← loaded]
      refine ⟨rfl, fun _ => rfl, ?_⟩
      intro row impossible
      cases impossible
  | some row =>
      rw [found] at loaded
      simp only [bind_eq_ok, require_eq_ok, pure_eq_ok] at loaded
      obtain ⟨chunks, chunksValue, rows, rowsValue, same⟩ := loaded
      rw [← same]
      refine ⟨rfl, ?_, ?_⟩
      · intro impossible
        cases impossible
      · intro other isRow
        rw [← Option.some.inj isRow]
        exact ⟨count _ _ chunksValue, count _ _ rowsValue⟩

/-- A run that loads its checkpoint knows what is committed. -/
theorem readRows_follows (batchSize : 0 < config.readBatchSize)
    {shared : Shared Database ChunkTransaction}
    (exact : Exact platform table identity shared count)
    {checkpoint : Option Int64 × Nat × Nat}
    (loaded : loadCheckpoint identity shared.store = .ok checkpoint) :
    Follows platform table identity count shared.log.length
      (readRows platform table identity config
        (RunState.new checkpoint)) := by
  obtain ⟨position, absent, present⟩ := loadCheckpoint_eq loaded
  have behind : table.after (RunState.new checkpoint).durablePosition =
      table.rows.drop (count + 0) := by
    change table.after checkpoint.1 = _
    rw [position, exact.position, after_prefix, Nat.add_zero]
  have counts : checkpoint.2.1 = shared.log.length ∧
      checkpoint.2.2 = count := by
    cases found : shared.store.checkpointOf identity with
    | none =>
        have nothing := exact.position
        rw [found] at nothing
        have empty := List.getLast?_eq_none_iff.mp
          (Option.map_eq_none_iff.mp nothing.symm)
        have bounded := exact.bounded
        have zero : count = 0 := by
          rcases List.take_eq_nil_iff.mp empty with zero | empty
          · exact zero
          · rw [empty, List.length_nil] at bounded
            omega
        rw [absent found, exact.unused zero, zero]
        exact ⟨rfl, rfl⟩
    | some row =>
        have stored := exact.counts row found
        have loadedCounts := present row found
        omega
  rw [readRows_eq batchSize, behind]
  apply @acceptRows_follows platform table identity config _ count _ 0
  · constructor
    · exact counts.1
    · exact counts.2
    · exact exact.bounded
    · rfl
  · rfl

/-- The runs of an identity on its source. -/
def Invocation (platform : Platform) (table : SourceTable)
    (importName : String) (reader : ReaderMode) (session : Run RunState) :
    Prop :=
  ∃ args : RunArgs, args.importName = importName ∧ args.reader = reader ∧
    session = run platform table args

def sourceIdentity (platform : Platform) (table : SourceTable)
    (importName : String) (reader : ReaderMode) : ExecutionIdentity :=
  { importName
    sourceDigest := compute platform table.rows
    readerMode := reader }

theorem Invocation.unloaded {importName : String} {reader : ReaderMode}
    {session : Run RunState}
    (invocation : Invocation platform table importName reader session) :
    Unloaded platform table
      (sourceIdentity platform table importName reader) session := by
  obtain ⟨args, imports, mode, same⟩ := invocation
  have identity : identityOf platform table args =
      sourceIdentity platform table importName reader := by
    rw [← imports, ← mode]
    rfl
  rw [same]
  cases valid : validateRunArgs args with
  | error error =>
      unfold run
      rw [valid]
      trivial
  | ok config =>
      have batchSize := (readBatchSize_pos valid).2.2.2
      rw [run_valid valid, identity]
      intro before count _
      apply Or.inl
      dsimp only
      cases rejectConflictingSourceIdentity
          (sourceIdentity platform table importName reader) before.store with
      | error error => trivial
      | ok admitted =>
          intro shared count exact
          cases loaded : loadCheckpoint
              (sourceIdentity platform table importName reader)
              shared.store with
          | error error =>
              apply Or.inl
              dsimp only
              rw [loaded]
              trivial
          | ok checkpoint =>
              apply Or.inr
              dsimp only
              rw [loaded]
              exact readRows_follows batchSize exact loaded

/-! ### Races -/

/-- The length of the prefix that is committed. -/
def committedCount (identity : ExecutionIdentity)
    (shared : Shared Database ChunkTransaction) : Nat :=
  (shared.store.rowsOf identity).length

theorem Exact.count_eq {shared : Shared Database ChunkTransaction}
    (exact : Exact platform table identity shared count) :
    committedCount identity shared = count := by
  have pairs := (mapM_eq_ok.mp exact.rows).length_eq
  have bounded := exact.bounded
  rw [List.length_take] at pairs
  unfold committedCount
  omega

/-- A run has loaded nothing yet, or it knows a prefix of what is committed; if
it knows all of it, also the number of chunks. -/
def Running (platform : Platform) (table : SourceTable)
    (identity : ExecutionIdentity)
    (shared : Shared Database ChunkTransaction) (session : Run RunState) :
    Prop :=
  Unloaded platform table identity session ∨
    ∃ known chunks, known ≤ committedCount identity shared ∧
      (known = committedCount identity shared →
        chunks = shared.log.length) ∧
      Follows platform table identity known chunks session

theorem Running.commit {shared : Shared Database ChunkTransaction}
    {transaction : ChunkTransaction} {continuation : Run RunState}
    {after : Database}
    (exact : Exact platform table identity shared count)
    (running : Running platform table identity shared
      (.submit transaction continuation))
    (applied : transaction.apply shared.store = .ok after) :
    ∃ size, 0 < size ∧
      Exact platform table identity
        { store := after, log := shared.log ++ [transaction] }
        (count + size) ∧
      Follows platform table identity (count + size) (shared.log.length + 1)
        continuation := by
  rcases running with unloaded | knows
  · exact absurd unloaded id
  · obtain ⟨known, chunks, behind, current, size, continues, later⟩ := knows
    rw [exact.count_eq] at behind current
    have same := continues.current exact behind applied
    rw [same, current same] at continues later
    exact ⟨size, continues.positive, continues.commits exact applied, later⟩

theorem Running.step {shared after : Shared Database ChunkTransaction}
    {session next : Run RunState}
    (exact : Exact platform table identity shared count)
    (running : Running platform table identity shared session)
    (step : Session.Step ChunkTransaction.apply session shared next after) :
    (∃ later, count ≤ later ∧ Exact platform table identity after later) ∧
      Running platform table identity after next := by
  cases step with
  | ask answer =>
      refine ⟨⟨count, Nat.le_refl _, exact⟩, ?_⟩
      rcases running with unloaded | knows
      · rcases unloaded shared count exact with still | follows
        · exact Or.inl still
        · refine Or.inr ⟨count, shared.log.length, ?_, fun _ => rfl, follows⟩
          exact Nat.le_of_eq exact.count_eq.symm
      · obtain ⟨known, chunks, behind, current, follows⟩ := knows
        exact Or.inr ⟨known, chunks, behind, current, follows shared.store⟩
  | abort continuation refused =>
      exact ⟨⟨count, Nat.le_refl _, exact⟩, Or.inl trivial⟩
  | commit continuation applied =>
      obtain ⟨size, _, committed, later⟩ := running.commit exact applied
      refine ⟨⟨_, Nat.le_add_right _ _, committed⟩,
        Or.inr ⟨_, _, ?_, ?_, later⟩⟩
      · exact Nat.le_of_eq committed.count_eq.symm
      · intro _
        rw [List.length_append, List.length_singleton]

/-- A run that another run overtakes knows less than what is committed. -/
theorem Running.other {shared after : Shared Database ChunkTransaction}
    {session next other : Run RunState}
    (exact : Exact platform table identity shared count)
    (running : Running platform table identity shared session)
    (step : Session.Step ChunkTransaction.apply session shared next after)
    (waiting : Running platform table identity shared other) :
    Running platform table identity after other := by
  rcases waiting with unloaded | knows
  · exact Or.inl unloaded
  · cases step with
    | ask answer => exact Or.inr knows
    | abort continuation refused => exact Or.inr knows
    | commit continuation applied =>
        obtain ⟨size, positive, committed, _⟩ := running.commit exact applied
        obtain ⟨known, chunks, behind, _, follows⟩ := knows
        rw [exact.count_eq] at behind
        refine Or.inr ⟨known, chunks, ?_, ?_, follows⟩
        · rw [committed.count_eq]
          omega
        · rw [committed.count_eq]
          intro caughtUp
          omega

section Runs

variable {importName : String} {reader : ReaderMode} {database : Database}
  {sessions : List (Run RunState)}
  {shared : Shared Database ChunkTransaction}

theorem race_running
    (fresh : database.Fresh (sourceIdentity platform table importName reader))
    (race : Race ChunkTransaction.apply
      (Invocation platform table importName reader)
      { store := database, log := [] } sessions shared) :
    (∃ count, Exact platform table
        (sourceIdentity platform table importName reader) shared count) ∧
      ∀ session ∈ sessions, Running platform table
        (sourceIdentity platform table importName reader) shared session := by
  apply Race.holds _ _ _ _ race
  · exact ⟨0, fresh.exact⟩
  · intro shared session _ invocation
    exact Or.inl invocation.unloaded
  · intro session shared next after committed running step
    obtain ⟨count, exact⟩ := committed
    obtain ⟨⟨later, _, committed⟩, keeps⟩ := running.step exact step
    exact ⟨⟨later, committed⟩, keeps⟩
  · intro session shared next after other committed running step waiting
    obtain ⟨count, exact⟩ := committed
    exact running.other exact step waiting

/-- Runs of one identity that race in any way: at every moment the committed
rows are a prefix of the source and the checkpoint is that of the prefix; no
step of any of them shortens it. -/
theorem race_exact
    (fresh : database.Fresh (sourceIdentity platform table importName reader))
    (race : Race ChunkTransaction.apply
      (Invocation platform table importName reader)
      { store := database, log := [] } sessions shared) :
    ∃ count, Exact platform table
        (sourceIdentity platform table importName reader) shared count ∧
      ∀ session ∈ sessions, ∀ next after,
        Session.Step ChunkTransaction.apply session shared next after →
          ∃ later, count ≤ later ∧ Exact platform table
            (sourceIdentity platform table importName reader) after later := by
  obtain ⟨⟨count, exact⟩, running⟩ := race_running fresh race
  refine ⟨count, exact, ?_⟩
  intro session member next after step
  exact ((running session member).step exact step).1

/-! ### One run after another -/

theorem leastDigest_eq_none {digests : List String}
    (none_ : leastDigest digests = none) : digests = [] := by
  cases digests with
  | nil => rfl
  | cons digest rest =>
      rw [leastDigest] at none_
      cases found : leastDigest rest with
      | none =>
          rw [found] at none_
          cases none_
      | some other =>
          rw [found] at none_
          cases none_

/-- A checkpoint of another content refuses the run. -/
theorem rejectConflicting_of_checkpoint {other : ExecutionIdentity}
    (imports : other.importName = identity.importName)
    (modes : other.readerMode = identity.readerMode)
    (differ : identity.sourceDigest ≠ other.sourceDigest)
    (present : database.checkpointOf identity ≠ none) :
    ∃ error, rejectConflictingSourceIdentity other database =
      .error error := by
  obtain ⟨row, found⟩ := Option.ne_none_iff_exists'.mp present
  have member := List.mem_of_find?_eq_some found
  have belongs := List.find?_some found
  unfold CheckpointRow.belongsTo at belongs
  obtain ⟨rowImport, rowDigest, rowMode, rowRevision⟩ :=
    of_decide_eq_true belongs
  unfold rejectConflictingSourceIdentity
  dsimp only
  split
  · exact ⟨_, rfl⟩
  · rename_i nothing
    have empty := List.map_eq_nil_iff.mp (leastDigest_eq_none nothing)
    have kept := List.filter_eq_nil_iff.mp empty row member
    exfalso
    apply kept
    apply decide_eq_true
    refine ⟨rowImport.trans imports.symm, ?_, ?_, ?_⟩
    · rw [rowMode, modes]
    · unfold ExecutionIdentity.definitionRevision at rowRevision ⊢
      rw [rowRevision, modes]
    · rw [rowDigest]
      exact differ

/-- A run that is refused changes nothing and cannot return. -/
theorem walk_refused {other : SourceTable} {args : RunArgs} {error : String}
    (refused : rejectConflictingSourceIdentity (identityOf platform other args)
      shared.store = .error error) {last : Run RunState}
    {after : Shared Database ChunkTransaction}
    (walked : Session.Walk ChunkTransaction.apply (run platform other args)
      shared last after) :
    after = shared ∧
      (last = run platform other args ∨ ∃ error, last = .failed error) := by
  induction walked with
  | start => exact ⟨rfl, Or.inl rfl⟩
  | next walked step ih =>
      obtain ⟨same, place⟩ := ih
      rw [same] at step
      rcases place with first | failed
      · rw [first] at step
        cases valid : validateRunArgs args with
        | error message =>
            unfold run at step
            rw [valid] at step
            cases step
        | ok config =>
            rw [run_valid valid] at step
            cases step with
            | ask answer =>
                refine ⟨rfl, Or.inr ⟨error, ?_⟩⟩
                dsimp only
                rw [refused]
                rfl
      · obtain ⟨message, isFailed⟩ := failed
        rw [isFailed] at step
        cases step

theorem run_done {args : RunArgs} :
    ∀ state, run platform table args ≠ .done state := by
  intro state
  cases valid : validateRunArgs args with
  | error message =>
      unfold run
      rw [valid]
      exact fun same => by cases same
  | ok config =>
      rw [run_valid valid]
      exact fun same => by cases same

/-- Runs of one identity, one after another, each ended by a failure or a kill
at any step or by its return.  Always a prefix of the source is committed; a
run that returns has committed all of it; and a run over another content is
refused once there is a checkpoint. -/
theorem history_exact
    (fresh : database.Fresh (sourceIdentity platform table importName reader))
    (history : History ChunkTransaction.apply
      (Invocation platform table importName reader)
      { store := database, log := [] } shared) :
    (∃ count, Exact platform table
        (sourceIdentity platform table importName reader) shared count) ∧
      (∀ session state after,
        Invocation platform table importName reader session →
          Session.Walk ChunkTransaction.apply session shared (.done state)
            after →
            Exact platform table
              (sourceIdentity platform table importName reader) after
              table.rows.length) ∧
      ∀ (other : SourceTable) (args : RunArgs),
        args.importName = importName → args.reader = reader →
          other.rows ≠ table.rows →
          (platform.sha256 (encodeSource table.rows) =
              platform.sha256 (encodeSource other.rows) →
            encodeSource table.rows = encodeSource other.rows) →
          shared.store.checkpointOf
              (sourceIdentity platform table importName reader) ≠ none →
            ∀ last after,
              Session.Walk ChunkTransaction.apply (run platform other args)
                  shared last after →
                after = shared ∧ ∀ state, last ≠ .done state := by
  obtain ⟨sessions, race⟩ := history.race
  refine ⟨(race_running fresh race).1, ?_, ?_⟩
  · intro session state after invocation walked
    have longer := race.walk invocation walked
    obtain ⟨⟨count, exact⟩, running⟩ := race_running fresh longer
    have returned := running (.done state)
      (List.mem_append_right _ List.mem_cons_self)
    rcases returned with unloaded | knows
    · exact absurd unloaded id
    · obtain ⟨known, _, behind, _, whole⟩ := knows
      rw [exact.count_eq] at behind
      have bounded := exact.bounded
      have all : count = table.rows.length := by
        change known = table.rows.length at whole
        omega
      rw [all] at exact
      exact exact
  · intro other args imports mode differ distinguished present last after
      walked
    have digests : compute platform table.rows ≠
        compute platform other.rows := by
      intro same
      exact differ (compute_injective table.zeroFree other.zeroFree
        distinguished same).symm
    obtain ⟨error, refused⟩ := @rejectConflicting_of_checkpoint
      (sourceIdentity platform table importName reader) shared.store
      (identityOf platform other args) imports mode digests present
    obtain ⟨same, place⟩ := walk_refused refused walked
    refine ⟨same, ?_⟩
    intro state isDone
    rcases place with first | failed
    · exact run_done state (first.symm.trans isDone)
    · obtain ⟨message, isFailed⟩ := failed
      rw [isDone] at isFailed
      cases isFailed

end Runs

def oneByOne : RunArgs := { argsOf .cursor none none with chunkSize := 1 }

/-- The first transaction of a run that commits row by row. -/
theorem oneByOne_commits :
    ∃ transaction rest after,
      Session.Walk ChunkTransaction.apply
          (run asciiPlatform threeRows oneByOne)
          { store := Database.empty, log := [] }
          (.submit transaction rest)
          { store := Database.empty, log := [] } ∧
        ChunkTransaction.apply transaction Database.empty = .ok after := by
  have begins : Begins asciiPlatform threeRows oneByOne Database.empty
      ⟨.cursor, 1, 500, none, none⟩ (none, 0, 0) :=
    ⟨by decide, rfl, rfl⟩
  have answered := run_accepted begins ⟨rfl, rfl⟩ rfl
  have walked := Session.walk_answered
    (run asciiPlatform threeRows oneByOne)
    { store := Database.empty, log := [] }
    (@Session.Walk.start _ _ _ _ ChunkTransaction.apply _ _)
  rw [answered] at walked
  exact ⟨_, _, _, walked, rfl⟩

theorem oneByOne_invocation : Invocation asciiPlatform threeRows "import"
    .cursor (run asciiPlatform threeRows oneByOne) :=
  ⟨oneByOne, rfl, rfl, rfl⟩

/-- The second of two runs has loaded its checkpoint when the first one
commits. -/
theorem race_exact_two :
    ∃ sessions shared, Race ChunkTransaction.apply
        (Invocation asciiPlatform threeRows "import" .cursor)
        { store := Database.empty, log := [] } sessions shared ∧
      sessions.length = 2 ∧ shared.log.length = 1 ∧
      ∃ count, Exact asciiPlatform threeRows
        (sourceIdentity asciiPlatform threeRows "import" .cursor) shared
        count := by
  obtain ⟨transaction, rest, after, walked, applied⟩ := oneByOne_commits
  have other : Invocation asciiPlatform threeRows "import" .cursor
      (run asciiPlatform threeRows (argsOf .cursor (some 1) none)) :=
    ⟨_, rfl, rfl, rfl⟩
  have one := Race.walk Race.nobody oneByOne_invocation walked
  have two := Race.walk one other
    (Session.walk_answered _ _ Session.Walk.start)
  have three := @Race.step _ _ _ _ _ _ _ _ _ _ 0 _ _ two rfl
    (Session.Step.commit rest applied)
  obtain ⟨count, exact, _⟩ := race_exact ⟨rfl, rfl⟩ three
  exact ⟨_, _, three, rfl, rfl, count, exact⟩

/-- A run that is killed right after its first commit. -/
theorem history_exact_killed :
    ∃ shared, History ChunkTransaction.apply
        (Invocation asciiPlatform threeRows "import" .cursor)
        { store := Database.empty, log := [] } shared ∧
      shared.log.length = 1 ∧
      ∃ count, Exact asciiPlatform threeRows
        (sourceIdentity asciiPlatform threeRows "import" .cursor) shared
        count := by
  obtain ⟨transaction, rest, after, walked, applied⟩ := oneByOne_commits
  have history := History.invoke History.fresh oneByOne_invocation
    (Session.Walk.next walked (Session.Step.commit rest applied))
  exact ⟨_, history, rfl, (history_exact ⟨rfl, rfl⟩ history).1⟩

end RawSqlx

end Projection
