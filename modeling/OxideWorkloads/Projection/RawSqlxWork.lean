/-
What the raw sqlx engine writes in a run, in a run that is killed before one
of its commits, and in the run after that.

A killed run commits the chunks before the one it hangs in.  The next run
starts behind them, so the chunk the kill has undone is written twice and
everything else once.
-/

import Mathlib.Algebra.BigOperators.Ring.List
import OxideWorkloads.Projection.RawSqlxExact

namespace Projection

open Foundation
open Foundation.Checks

namespace RawSqlx

variable {platform : Platform} {table : SourceTable}
  {identity : ExecutionIdentity} {config : RunConfig}

/-! ### Work -/

def writtenRows (transactions : List ChunkTransaction) : Nat :=
  (transactions.map (fun transaction => transaction.chunk.length)).sum

/-- The calls of `insert_batch`. -/
def statementCount (transactions : List ChunkTransaction) : Nat :=
  (transactions.map (fun transaction =>
    (Chunks.chunks rowsPerStatement transaction.chunk).length)).sum

/-- The parameters bound by the calls of `insert_batch`. -/
def parameterCount (transactions : List ChunkTransaction) : Nat :=
  (transactions.map (fun transaction =>
    ((Chunks.chunks rowsPerStatement transaction.chunk).map
      (fun batch => batch.length * columnsPerRow)).sum)).sum

theorem parameterCount_eq (transactions : List ChunkTransaction) :
    parameterCount transactions =
      writtenRows transactions * columnsPerRow := by
  induction transactions with
  | nil => rfl
  | cons transaction rest ih =>
      unfold parameterCount writtenRows at *
      have positive : 0 < rowsPerStatement := by decide
      have whole := congrArg List.length
        (Chunks.chunks_splits positive transaction.chunk).whole
      rw [List.length_flatten] at whole
      rw [List.map_cons, List.map_cons, List.sum_cons, List.sum_cons, ih,
        Nat.add_mul, ← whole, List.sum_map_mul_right]

theorem schedule_chunks (state : RunState)
    (groups : List (List ProjectedRow)) :
    (schedule identity state groups).map (fun transaction =>
      transaction.chunk) = groups := by
  induction groups generalizing state with
  | nil => rfl
  | cons group rest ih => rw [schedule, List.map_cons, ih]

theorem schedule_length (state : RunState)
    (groups : List (List ProjectedRow)) :
    (schedule identity state groups).length = groups.length := by
  have chunks := congrArg List.length (@schedule_chunks identity state groups)
  rw [List.length_map] at chunks
  exact chunks

theorem schedule_writtenRows (state : RunState)
    (groups : List (List ProjectedRow)) :
    writtenRows (schedule identity state groups) =
      groups.flatten.length := by
  have chunks := congrArg (List.map List.length)
    (@schedule_chunks identity state groups)
  rw [List.map_map] at chunks
  rw [List.length_flatten, ← chunks]
  rfl

/-- The batches of some chunks. -/
def batchCount (groups : List (List ProjectedRow)) : Nat :=
  (groups.map (fun group =>
    (Chunks.chunks rowsPerStatement group).length)).sum

theorem schedule_statementCount (state : RunState)
    (groups : List (List ProjectedRow)) :
    statementCount (schedule identity state groups) = batchCount groups := by
  have chunks := congrArg (List.map (fun group : List ProjectedRow =>
    (Chunks.chunks rowsPerStatement group).length))
      (@schedule_chunks identity state groups)
  rw [List.map_map] at chunks
  unfold statementCount batchCount
  rw [← chunks]
  rfl

/-! ### A run that hangs before a commit -/

/-- The arguments of a run, and a pause before the commit of a chunk. -/
def RunArgs.killedAt (args : RunArgs) (chunk : Nat) (marker : String) :
    RunArgs :=
  { args with
    pauseAtChunk := some chunk
    pausePhase := some .beforeCommit
    pauseMarker := some marker }

/-- The statements of a transaction are executed, and the run waits for its
kill. -/
def pausedIn (transaction : ChunkTransaction) : Run RunState :=
  .ask (fun database =>
    match transaction.apply database with
    | .error error => .failed error
    | .ok _ => .pending)

def RunConfig.PausesBefore (config : RunConfig) (chunk : Nat) : Prop :=
  config.failAfterChunk = none ∧
    ∃ marker, config.killPause =
      some { chunk, phase := .beforeCommit, marker }

theorem flushChunk_paused {state : RunState}
    (pauses : config.PausesBefore (state.committedChunks + 1))
    (nonempty : state.chunk ≠ []) (next : RunState → Run RunState) :
    flushChunk identity config state >>= next =
      pausedIn (transactionOf identity state state.chunk) := by
  obtain ⟨sound, marker, pause⟩ := pauses
  cases found : state.chunk.getLast? with
  | none => exact absurd (List.getLast?_eq_none_iff.mp found) nonempty
  | some last =>
      have id : lastId state.chunk = last.customerId := by
        rw [lastId, found]
        rfl
      have here : pausesAt config.killPause (state.committedChunks + 1)
          .beforeCommit = true := by
        rw [pause]
        exact decide_eq_true ⟨rfl, rfl⟩
      unfold flushChunk commitChunk pausedIn transactionOf checkpointAfter
      rw [found, sound, id]
      dsimp only
      rw [if_pos here, Session.ask_bind, Session.ask_bind]
      congr 1
      funext database
      cases ChunkTransaction.apply _ database with
      | error error => rfl
      | ok written => rfl

theorem pauses_elsewhere {chunk other : Nat}
    (pauses : config.PausesBefore chunk) (differ : other ≠ chunk)
    (phase : PausePhase) :
    pausesAt config.killPause other phase = false := by
  obtain ⟨_, marker, pause⟩ := pauses
  rw [pause]
  apply decide_eq_false
  intro both
  exact differ both.1.symm

theorem checkpointAfter_chunk (state : RunState) (chunk : List ProjectedRow)
    (groups : List (List ProjectedRow)) (group : List ProjectedRow) :
    transactionOf identity (groups.foldl stateAfter { state with chunk })
        group =
      transactionOf identity (groups.foldl stateAfter state) group := by
  cases groups <;> rfl

/-- Rows up to the chunk that the run hangs in. -/
theorem acceptRows_killed {chunk : Nat} (pauses : config.PausesBefore chunk)
    {rows : List SourceRow} {projected : List ProjectedRow}
    (accepted : rows.mapM
      (project platform identity.importName identity.sourceDigest) =
        .ok projected) (state : RunState) {position : Nat}
    {group : List ProjectedRow}
    (index : state.committedChunks + position + 1 = chunk)
    (found : (Chunks.withRest (Chunks.fill config.chunkSize state.chunk
      projected))[position]? = some group) :
    acceptRows platform identity config state rows >>=
        flushChunk identity config =
      Session.submitAll
        (schedule identity state
          ((Chunks.withRest (Chunks.fill config.chunkSize state.chunk
            projected)).take position))
        (pausedIn (transactionOf identity
          (((Chunks.withRest (Chunks.fill config.chunkSize state.chunk
            projected)).take position).foldl stateAfter state) group)) := by
  induction rows generalizing projected state position with
  | nil =>
      rw [List.mapM_nil, pure_eq_ok] at accepted
      rw [← accepted, Chunks.fill, Chunks.withRest, List.nil_append] at found
      by_cases empty : state.chunk = []
      · rw [if_pos empty] at found
        cases found
      · rw [if_neg empty] at found
        cases position with
        | succ position => cases found
        | zero =>
            rw [List.getElem?_cons_zero, Option.some.injEq] at found
            change state.chunk = group at found
            rw [← index] at pauses
            have paused := @flushChunk_paused identity config state pauses
              empty pure
            rw [Session.bind_pure] at paused
            rw [acceptRows, Session.pure_bind, paused, found]
            rfl
  | cons row rest ih =>
      rw [List.mapM_cons, bind_eq_ok] at accepted
      obtain ⟨first, one, accepted⟩ := accepted
      rw [bind_eq_ok] at accepted
      obtain ⟨others, tail, same⟩ := accepted
      rw [pure_eq_ok] at same
      rw [← same, Chunks.fill] at found ⊢
      rw [acceptRows, acceptSourceRow_eq one]
      by_cases full : state.chunk.length + 1 = config.chunkSize
      · have nonempty : state.chunk ++ [first] ≠ [] :=
          List.append_ne_nil_of_right_ne_nil _ (List.cons_ne_nil _ _)
        have whole : Chunks.withRest
            ((state.chunk ++ [first]) ::
                (Chunks.fill config.chunkSize [] others).1,
              (Chunks.fill config.chunkSize [] others).2) =
            (state.chunk ++ [first]) ::
              Chunks.withRest (Chunks.fill config.chunkSize [] others) := rfl
        rw [if_pos full, whole] at found
        rw [if_pos full, if_pos full, whole, Session.bind_assoc]
        cases position with
        | zero =>
            -- the run hangs in this chunk
            rw [List.getElem?_cons_zero, Option.some.injEq] at found
            rw [← index] at pauses
            rw [@flushChunk_paused identity config
              { state with chunk := state.chunk ++ [first] } pauses nonempty,
              ← found]
            rfl
        | succ position =>
            rw [List.getElem?_cons_succ] at found
            have awake := @flushChunk_awake identity config pauses.1
              { state with chunk := state.chunk ++ [first] } nonempty
              (pauses_elsewhere pauses (by
                change state.committedChunks + 1 ≠ chunk
                omega))
            have later := @ih others tail
              (stateAfter { state with chunk := state.chunk ++ [first] }
                (state.chunk ++ [first])) position (by
                change state.committedChunks + 1 + position + 1 = chunk
                omega) found
            rw [awake, Session.submit_bind, Session.done_bind, later]
            rfl
      · rw [if_neg full] at found
        have later := @ih others tail
          { state with chunk := state.chunk ++ [first] } position index found
        rw [if_neg full, if_neg full, Session.pure_bind, later,
          schedule_chunk, checkpointAfter_chunk]

theorem readRows_killed {chunk : Nat} (pauses : config.PausesBefore chunk)
    (batchSize : 0 < config.readBatchSize)
    (checkpoint : Option Int64 × Nat × Nat) {projected : List ProjectedRow}
    (accepted : (table.after checkpoint.1).mapM
      (project platform identity.importName identity.sourceDigest) =
        .ok projected) {position : Nat} {group : List ProjectedRow}
    (index : checkpoint.2.1 + position + 1 = chunk)
    (found : (Chunks.chunks config.chunkSize projected)[position]? =
      some group) :
    readRows platform table identity config (RunState.new checkpoint) =
      Session.submitAll
        (schedule identity (RunState.new checkpoint)
          ((Chunks.chunks config.chunkSize projected).take position))
        (pausedIn (transactionOf identity
          (((Chunks.chunks config.chunkSize projected).take position).foldl
            stateAfter (RunState.new checkpoint)) group)) := by
  rw [readRows_eq batchSize]
  exact acceptRows_killed pauses accepted (RunState.new checkpoint) index
    found

theorem validateRunArgs_killedAt {args : RunArgs}
    (valid : validateRunArgs args = .ok config) (quiet : config.Uninterrupted)
    {chunk : Nat} (counted : 0 < chunk) {marker : String}
    (named : marker ≠ "") :
    validateRunArgs (args.killedAt chunk marker) =
      .ok { config with
        killPause := some { chunk, phase := .beforeCommit, marker } } := by
  have pause : killPauseOf (args.killedAt chunk marker) =
      .ok (some { chunk, phase := .beforeCommit, marker }) :=
    if_pos ⟨counted, named⟩
  have batch : readBatchSizeOf (args.killedAt chunk marker) =
      readBatchSizeOf args := rfl
  unfold validateRunArgs at valid ⊢
  rw [pause, batch]
  simp only [bind_eq_ok, ensure_eq_ok, pure_eq_ok, exists_const] at valid ⊢
  obtain ⟨import_, size, batchSize, isBatch, batchBound, failure, killPause,
    _, _, same⟩ := valid
  have sound := quiet.1
  rw [← same] at sound ⊢
  exact ⟨import_, size, batchSize, isBatch, batchBound, failure, _, rfl,
    Or.inl sound, rfl⟩

theorem Begins.killedAt {args : RunArgs} {database : Database}
    {checkpoint : Option Int64 × Nat × Nat}
    (begins : Begins platform table args database config checkpoint)
    (quiet : config.Uninterrupted) {chunk : Nat} (counted : 0 < chunk)
    {marker : String} (named : marker ≠ "") :
    Begins platform table (args.killedAt chunk marker) database
      { config with
        killPause := some { chunk, phase := .beforeCommit, marker } }
      checkpoint :=
  ⟨validateRunArgs_killedAt begins.valid quiet counted named,
    begins.admitted, begins.loaded⟩

theorem answered_schedule {database : Database} (state : RunState)
    (group : List ProjectedRow) (groups : List (List ProjectedRow))
    (rest : Run RunState) :
    (Session.submitAll (schedule identity state (group :: groups))
        rest).answered database =
      Session.submitAll (schedule identity state (group :: groups)) rest :=
  rfl

/-- A run that is killed in a chunk, but not in its first one, has committed
the chunks before it. -/
theorem run_killed {args : RunArgs} {database : Database}
    {checkpoint : Option Int64 × Nat × Nat}
    (begins : Begins platform table args database config checkpoint)
    {position : Nat}
    (pauses : config.PausesBefore (checkpoint.2.1 + position + 1))
    (notFirst : 0 < position) {projected : List ProjectedRow}
    (accepted : (table.after checkpoint.1).mapM
      (project platform args.importName (compute platform table.rows)) =
        .ok projected) {group : List ProjectedRow}
    (found : (Chunks.chunks args.chunkSize projected)[position]? =
      some group) :
    (run platform table args).answered database =
      Session.submitAll
        (schedule (identityOf platform table args) (RunState.new checkpoint)
          ((Chunks.chunks args.chunkSize projected).take position))
        (pausedIn (transactionOf (identityOf platform table args)
          (((Chunks.chunks args.chunkSize projected).take position).foldl
            stateAfter (RunState.new checkpoint)) group)) := by
  obtain ⟨_, size, _, batchSize⟩ := readBatchSize_pos begins.valid
  rw [← size] at found ⊢
  have reads := @readRows_killed platform table
    (identityOf platform table args) _ _ pauses batchSize checkpoint projected
    accepted position group rfl found
  rw [run_answered begins, reads]
  cases before : (Chunks.chunks config.chunkSize projected).take position with
  | nil =>
      rcases List.take_eq_nil_iff.mp before with zero | nothing
      · omega
      · rw [nothing] at found
        cases found
  | cons first rest => exact answered_schedule _ first rest _

/-! ### The run after a kill -/

/-- What is committed once some transactions of a run are. -/
theorem Follows.commits {transactions : List ChunkTransaction}
    {rest : Run RunState} {count : Nat}
    {shared : Shared Database ChunkTransaction}
    (follows : Follows platform table identity count shared.log.length
      (Session.submitAll transactions rest))
    (exact : Exact platform table identity shared count) {after : Database}
    (applied : transactions.foldlM
      (fun database transaction => transaction.apply database)
      shared.store = .ok after) :
    Exact platform table identity
      { store := after, log := shared.log ++ transactions }
      (count + writtenRows transactions) := by
  induction transactions generalizing count shared with
  | nil =>
      rw [List.foldlM_nil, pure_eq_ok] at applied
      rw [← applied, List.append_nil]
      exact exact
  | cons transaction transactions ih =>
      obtain ⟨size, next, later⟩ := follows
      rw [List.foldlM_cons, bind_eq_ok] at applied
      obtain ⟨middle, first, others⟩ := applied
      have pairs := (mapM_eq_ok.mp next.chunk).length_eq
      have bounded := next.bounded
      rw [List.length_take, List.length_drop, min_eq_left (by omega)]
        at pairs
      have committed := @ih (count + size)
        { store := middle, log := shared.log ++ [transaction] } (by
          rw [List.length_append, List.length_singleton]
          exact later) (next.commits exact first) others
      have total : writtenRows (transaction :: transactions) =
          size + writtenRows transactions := by
        rw [pairs]
        rfl
      rw [total, ← Nat.add_assoc]
      rw [List.append_assoc, List.singleton_append] at committed
      exact committed

/-- The checkpoint of a prefix can be loaded, and is at its end. -/
theorem Exact.loads {shared : Shared Database ChunkTransaction} {count : Nat}
    (exact : Exact platform table identity shared count) :
    ∃ checkpoint, loadCheckpoint identity shared.store = .ok checkpoint ∧
      table.after checkpoint.1 = table.rows.drop count := by
  have loads : ∃ checkpoint,
      loadCheckpoint identity shared.store = .ok checkpoint := by
    unfold loadCheckpoint
    cases found : shared.store.checkpoints.find?
        (fun row => row.belongsTo identity) with
    | none => exact ⟨_, rfl⟩
    | some row =>
        obtain ⟨chunks, rows⟩ := exact.counts row found
        refine ⟨(some row.lastCustomerId, row.committedChunks.val.toNat,
          row.committedRows.val.toNat), ?_⟩
        simp only [bind_eq_ok, require_eq_ok, pure_eq_ok]
        exact ⟨_, if_pos (by omega), _, if_pos (by omega), rfl⟩
  obtain ⟨checkpoint, loaded⟩ := loads
  refine ⟨checkpoint, loaded, ?_⟩
  rw [(loadCheckpoint_eq loaded).1, exact.position, after_prefix]

/-- Writing the checkpoint of an identity leaves those of other contents as
they are. -/
theorem filter_upsertCheckpoint {row : CheckpointRow}
    {kept : CheckpointRow → Bool}
    (dropped : ∀ row : CheckpointRow,
      row.sourceDigest = identity.sourceDigest → kept row = false)
    (belongs : row.belongsTo identity = true) (rows : List CheckpointRow) :
    (upsertCheckpoint identity row rows).filter kept = rows.filter kept := by
  have digest : ∀ row : CheckpointRow, row.belongsTo identity = true →
      row.sourceDigest = identity.sourceDigest := by
    intro row belongs
    unfold CheckpointRow.belongsTo at belongs
    exact (of_decide_eq_true belongs).2.1
  induction rows with
  | nil =>
      rw [upsertCheckpoint, List.filter_cons,
        dropped row (digest row belongs)]
      rfl
  | cons other rest ih =>
      rw [upsertCheckpoint]
      by_cases found : other.belongsTo identity = true
      · have updated : kept { other with
            lastCustomerId := row.lastCustomerId
            committedChunks := row.committedChunks
            committedRows := row.committedRows } = false :=
          dropped _ (digest other found)
        rw [if_pos found, List.filter_cons, List.filter_cons, updated,
          dropped other (digest other found)]
        rfl
      · rw [if_neg found, List.filter_cons, List.filter_cons, ih]

/-- A commit does not get the next run refused. -/
theorem admitted_apply {transaction : ChunkTransaction}
    {database after : Database}
    (applied : transaction.apply database = .ok after) :
    rejectConflictingSourceIdentity transaction.identity after =
      rejectConflictingSourceIdentity transaction.identity database := by
  unfold ChunkTransaction.apply at applied
  simp only [bind_eq_ok, ensure_eq_ok, require_eq_ok, pure_eq_ok,
    exists_const, Word.toBigint?_eq_some] at applied
  obtain ⟨written, inserts, _, chunks, _, rows, _, same⟩ := applied
  obtain ⟨between, _⟩ := insertBatches_eq_ok inserts
  have belongs : CheckpointRow.belongsTo
      { importName := transaction.identity.importName
        sourceDigest := transaction.identity.sourceDigest
        readerMode := transaction.identity.readerMode.asStr
        definitionRevision := transaction.identity.definitionRevision
        lastCustomerId := transaction.checkpoint.lastCustomerId
        committedChunks := chunks
        committedRows := rows } transaction.identity = true := by
    simp [CheckpointRow.belongsTo]
  have others := @filter_upsertCheckpoint transaction.identity _
    (fun row => row.importName = transaction.identity.importName ∧
      row.readerMode = transaction.identity.readerMode.asStr ∧
      row.definitionRevision = transaction.identity.definitionRevision ∧
      row.sourceDigest ≠ transaction.identity.sourceDigest) (by
        intro row digest
        apply decide_eq_false
        intro conflict
        exact conflict.2.2.2 digest) belongs database.checkpoints
  rw [← same, between]
  unfold rejectConflictingSourceIdentity
  dsimp only
  rw [others]

theorem admitted_commits {transactions : List ChunkTransaction}
    {database after : Database}
    (owned : ∀ transaction ∈ transactions, transaction.identity = identity)
    (applied : transactions.foldlM
      (fun database transaction => transaction.apply database) database =
        .ok after) :
    rejectConflictingSourceIdentity identity after =
      rejectConflictingSourceIdentity identity database := by
  induction transactions generalizing database with
  | nil =>
      rw [List.foldlM_nil, pure_eq_ok] at applied
      rw [applied]
  | cons transaction rest ih =>
      rw [List.foldlM_cons, bind_eq_ok] at applied
      obtain ⟨middle, first, others⟩ := applied
      have one := admitted_apply first
      rw [owned transaction List.mem_cons_self] at one
      rw [ih (fun other member =>
        owned other (List.mem_cons_of_mem _ member)) others, one]

theorem schedule_owned (state : RunState)
    (groups : List (List ProjectedRow)) :
    ∀ transaction ∈ schedule identity state groups,
      transaction.identity = identity := by
  induction groups generalizing state with
  | nil =>
      intro transaction member
      cases member
  | cons group rest ih =>
      intro transaction member
      rcases List.mem_cons.mp member with same | later
      · rw [same]
      · exact ih _ transaction later

/-- The first chunks of a list hold its first entries. -/
theorem chunks_take_flatten {size : Nat} (positive : 0 < size)
    (projected : List ProjectedRow) (position : Nat) :
    ((Chunks.chunks size projected).take position).flatten =
      projected.take (position * size) := by
  rw [← Chunks.chunks_take positive]
  exact (Chunks.chunks_splits positive _).whole

section Resumed

variable {args : RunArgs} {database killed : Database}
  {projected : List ProjectedRow}

/-- The transactions of a run that starts on nothing continue one another. -/
theorem schedule_follows
    (begins : Begins platform table args database config (none, 0, 0))
    (quiet : config.Uninterrupted)
    (fresh : database.Fresh (identityOf platform table args))
    (accepted : projectAll platform (identityOf platform table args)
      table.rows = .ok projected) (position : Nat) :
    ∃ rest, Follows platform table (identityOf platform table args) 0 0
      (Session.submitAll
        (schedule (identityOf platform table args) (RunState.new (none, 0, 0))
          ((Chunks.chunks args.chunkSize projected).take position)) rest) := by
  obtain ⟨_, size, _, batchSize⟩ := readBatchSize_pos begins.valid
  have follows := @readRows_follows platform table _ config 0 batchSize _
    (@Database.Fresh.exact platform table _ _ fresh) _ begins.loaded
  have reads := @readRows_schedule platform table
    (identityOf platform table args) config quiet batchSize (none, 0, 0)
    projected accepted
  rw [reads, size, ← List.take_append_drop position
    (Chunks.chunks args.chunkSize projected), schedule_append,
    Session.submitAll_append] at follows
  exact ⟨_, follows⟩

/-- The run after a kill commits the chunks from the one it was killed in. -/
theorem run_resumed
    (begins : Begins platform table args database config (none, 0, 0))
    (quiet : config.Uninterrupted)
    (fresh : database.Fresh (identityOf platform table args))
    (accepted : projectAll platform (identityOf platform table args)
      table.rows = .ok projected) {position : Nat}
    (committed : (schedule (identityOf platform table args)
        (RunState.new (none, 0, 0))
        ((Chunks.chunks args.chunkSize projected).take position)).foldlM
      (fun database transaction => transaction.apply database) database =
        .ok killed) :
    (killed.rowsOf (identityOf platform table args)).length =
        min (position * args.chunkSize) projected.length ∧
      ∃ loaded state, (run platform table args).answered killed =
        Session.submitAll
          (schedule (identityOf platform table args) loaded
            ((Chunks.chunks args.chunkSize projected).drop position))
          (.done state) := by
  have positive : 0 < args.chunkSize := by
    obtain ⟨_, size, positive, _⟩ := readBatchSize_pos begins.valid
    rw [size] at positive
    exact positive
  obtain ⟨rest, follows⟩ := schedule_follows begins quiet fresh accepted
    position
  have exact := @Follows.commits platform table _ _ rest 0
    { store := database, log := [] } follows fresh.exact killed committed
  rw [schedule_writtenRows, chunks_take_flatten positive, List.length_take,
    Nat.zero_add] at exact
  have pairs := (mapM_eq_ok.mp accepted).length_eq
  obtain ⟨checkpoint, loaded, behind⟩ := exact.loads
  have admitted := (admitted_commits (schedule_owned _ _) committed).trans
    begins.admitted
  have again : Begins platform table args killed config checkpoint :=
    ⟨begins.valid, admitted, loaded⟩
  have left : projectAll platform (identityOf platform table args)
      (table.after checkpoint.1) =
        .ok (projected.drop (position * args.chunkSize)) := by
    have tails : ∀ count, table.rows.drop (min count projected.length) =
        table.rows.drop count := by
      intro count
      rcases Nat.le_total count projected.length with inside | beyond
      · rw [min_eq_left inside]
      · rw [min_eq_right beyond, List.drop_eq_nil_of_le (by omega),
          List.drop_eq_nil_of_le (by omega)]
    rw [behind, tails]
    unfold projectAll at accepted ⊢
    rw [mapM_eq_ok] at accepted ⊢
    exact List.forall₂_drop _ accepted
  have resumes := run_accepted again quiet left
  rw [Chunks.chunks_drop positive] at resumes
  exact ⟨exact.count_eq, _, _, resumes⟩

end Resumed

end RawSqlx

end Projection
