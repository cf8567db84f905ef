/-
The commit schedule does not depend on how rows are read.

Both readers hand over the same rows one after another, whatever the sizes of
their pages and fetches; and accepting rows one after another commits exactly
the full chunks.
-/

import OxideWorkloads.Projection.RawSqlx

namespace Projection

open Foundation
open Foundation.Checks

namespace RawSqlx

variable {platform : Platform} {table : SourceTable}
  {identity : ExecutionIdentity} {config : RunConfig}

/-! ### The two readers -/

theorem acceptRows_append (state : RunState) (first second : List SourceRow) :
    acceptRows platform identity config state (first ++ second) =
      acceptRows platform identity config state first >>=
        (fun state => acceptRows platform identity config state second) := by
  induction first generalizing state with
  | nil => rfl
  | cons row rest ih =>
      rw [List.cons_append, acceptRows, acceptRows, Session.bind_assoc]
      apply congrArg
      funext state
      exact ih state

theorem cursorLoop_eq (positive : 0 < config.readBatchSize)
    (rows : List SourceRow) (state : RunState) :
    cursorLoop platform identity config rows state =
      acceptRows platform identity config state rows := by
  induction length : rows.length using Nat.strongRecOn generalizing rows state
  rename_i bound ih
  rw [cursorLoop]
  by_cases nothing : rows.take config.readBatchSize = []
  · have empty : rows = [] := by
      rcases List.take_eq_nil_iff.mp nothing with zero | empty
      · omega
      · exact empty
    rw [dif_pos nothing, empty]
    rfl
  · have some_ : rows ≠ [] := by
      intro empty
      rw [empty] at nothing
      exact nothing List.take_nil
    have long := List.length_pos_iff.mpr some_
    rw [dif_neg nothing]
    have split := List.take_append_drop config.readBatchSize rows
    conv => rhs; rw [← split, acceptRows_append]
    apply congrArg
    funext state
    apply ih (rows.drop config.readBatchSize).length
    · rw [List.length_drop]
      omega
    · rfl

/-- In ascending rows, those above the last of a page are those behind the
page. -/
theorem above_last {rows : List SourceRow} {size : Nat} {last : SourceRow}
    (ascending : rows.Pairwise
      (fun earlier later => earlier.customerId < later.customerId))
    (found : (rows.take size).getLast? = some last) :
    rows.filter (fun row => last.customerId < row.customerId) =
      rows.drop size := by
  have split := List.take_append_drop size rows
  rw [← split] at ascending
  obtain ⟨inPage, _, across⟩ := List.pairwise_append.mp ascending
  have lastIn : last ∈ rows.take size := List.mem_of_getLast? found
  obtain ⟨before, page⟩ := List.getLast?_eq_some_iff.mp found
  conv => lhs; rw [← split, List.filter_append]
  have none_ : (rows.take size).filter
      (fun row => last.customerId < row.customerId) = [] := by
    apply List.filter_eq_nil_iff.mpr
    intro row member
    rw [decide_eq_true_iff]
    rw [page] at member inPage
    rcases List.mem_append.mp member with earlier | same
    · have below := (List.pairwise_append.mp inPage).2.2 row earlier last
        List.mem_cons_self
      exact Int64.lt_asymm below
    · rw [List.mem_singleton.mp same]
      exact Int64.lt_irrefl
  have all : (rows.drop size).filter
      (fun row => last.customerId < row.customerId) = rows.drop size := by
    apply List.filter_eq_self.mpr
    intro row member
    exact decide_eq_true (across last lastIn row member)
  rw [none_, all, List.nil_append]

theorem after_ascending (table : SourceTable) (position : Option Int64) :
    (table.after position).Pairwise
      (fun earlier later => earlier.customerId < later.customerId) := by
  cases position with
  | none => exact table.ascending
  | some customerId => exact table.ascending.filter _

theorem pagingLoop_eq (positive : 0 < config.readBatchSize)
    (position : Option Int64) (state : RunState) :
    pagingLoop platform table identity config position state =
      acceptRows platform identity config state (table.after position) := by
  induction length : (table.after position).length using Nat.strongRecOn
    generalizing position state
  rename_i bound ih
  rw [pagingLoop]
  have split := List.take_append_drop config.readBatchSize
    (table.after position)
  split
  · rename_i found
    have nothing : (table.after position).take config.readBatchSize = [] :=
      List.getLast?_eq_none_iff.mp found
    have empty : table.after position = [] := by
      rcases List.take_eq_nil_iff.mp nothing with zero | empty
      · omega
      · exact empty
    rw [empty]
    rfl
  · rename_i last found
    have shorter := after_last_lt found
    have behind : table.after (some last.customerId) =
        (table.after position).drop config.readBatchSize := by
      have member : last ∈ table.after position :=
        List.mem_of_mem_take (List.mem_of_getLast? found)
      rw [after_after member]
      exact above_last (after_ascending table position) found
    conv => rhs; rw [← split, acceptRows_append]
    apply congrArg
    funext state
    rw [← behind]
    apply ih _ _ _ _ rfl
    omega

/-- What is read does not depend on the reader. -/
theorem readRows_eq (positive : 0 < config.readBatchSize)
    (state : RunState) :
    readRows platform table identity config state =
      acceptRows platform identity config state
          (table.after state.durablePosition) >>=
        flushChunk identity config := by
  unfold readRows
  cases config.readerMode with
  | cursor =>
      dsimp only
      rw [runCursor, cursorLoop_eq positive]
  | paging =>
      dsimp only
      rw [runPaging, pagingLoop_eq positive]

/-! ### The schedule -/

/-- No failure is injected and no pause configured. -/
def RunConfig.Uninterrupted (config : RunConfig) : Prop :=
  config.failAfterChunk = none ∧ config.killPause = none

/-- The last id of a chunk. -/
def lastId (group : List ProjectedRow) : Int64 :=
  (group.getLast?.map (fun row => row.customerId)).getD 0

def checkpointAfter (state : RunState) (group : List ProjectedRow) :
    CheckpointUpdate :=
  { lastCustomerId := lastId group
    committedChunks := state.committedChunks + 1
    committedRows := state.committedRows + group.length }

/-- The state of a run once it has committed a chunk. -/
def stateAfter (state : RunState) (group : List ProjectedRow) : RunState :=
  { durablePosition := some (lastId group)
    committedChunks := state.committedChunks + 1
    committedRows := state.committedRows + group.length
    chunk := [] }

/-- The transactions of consecutive chunks. -/
def schedule (identity : ExecutionIdentity) :
    RunState → List (List ProjectedRow) → List ChunkTransaction
  | _, [] => []
  | state, group :: rest =>
      { identity
        failAfterChunk := none
        chunk := group
        checkpoint := checkpointAfter state group } ::
          schedule identity (stateAfter state group) rest

theorem schedule_append (state : RunState)
    (first second : List (List ProjectedRow)) :
    schedule identity state (first ++ second) =
      schedule identity state first ++
        schedule identity (first.foldl stateAfter state) second := by
  induction first generalizing state with
  | nil => rfl
  | cons group rest ih =>
      rw [List.cons_append, schedule, schedule, ih, List.cons_append]
      rfl

/-- The rows of an unfinished chunk do not matter to what was committed. -/
theorem schedule_chunk (state : RunState) (chunk : List ProjectedRow)
    (groups : List (List ProjectedRow)) :
    schedule identity { state with chunk } groups =
      schedule identity state groups := by
  cases groups <;> rfl

theorem foldl_stateAfter_chunk (state : RunState)
    (chunk left : List ProjectedRow) (groups : List (List ProjectedRow)) :
    { groups.foldl stateAfter { state with chunk } with chunk := left } =
      { groups.foldl stateAfter state with chunk := left } := by
  cases groups <;> rfl

/-- The transaction of a chunk. -/
def transactionOf (identity : ExecutionIdentity) (state : RunState)
    (group : List ProjectedRow) : ChunkTransaction :=
  { identity
    failAfterChunk := none
    chunk := group
    checkpoint := checkpointAfter state group }

/-- A chunk for which no failure and no pause is configured. -/
theorem flushChunk_awake (sound : config.failAfterChunk = none)
    {state : RunState} (nonempty : state.chunk ≠ [])
    (awake : ∀ phase,
      pausesAt config.killPause (state.committedChunks + 1) phase = false) :
    flushChunk identity config state =
      .submit (transactionOf identity state state.chunk)
        (.done (stateAfter state state.chunk)) := by
  cases found : state.chunk.getLast? with
  | none => exact absurd (List.getLast?_eq_none_iff.mp found) nonempty
  | some last =>
      have id : lastId state.chunk = last.customerId := by
        rw [lastId, found]
        rfl
      unfold flushChunk commitChunk transactionOf checkpointAfter stateAfter
      rw [found, sound, id]
      dsimp only
      rw [awake .beforeCommit, awake .afterCommit]
      rfl

theorem flushChunk_quiet (quiet : config.Uninterrupted) {state : RunState}
    (nonempty : state.chunk ≠ []) :
    flushChunk identity config state =
      .submit
        { identity
          failAfterChunk := none
          chunk := state.chunk
          checkpoint := checkpointAfter state state.chunk }
        (.done (stateAfter state state.chunk)) := by
  apply flushChunk_awake quiet.1 nonempty
  intro phase
  rw [quiet.2]
  rfl

theorem acceptSourceRow_eq {row : SourceRow} {projected : ProjectedRow}
    (accepted : project platform identity.importName identity.sourceDigest
      row = .ok projected) {state : RunState} :
    acceptSourceRow platform identity config state row =
      if state.chunk.length + 1 = config.chunkSize then
        flushChunk identity config
          { state with chunk := state.chunk ++ [projected] }
      else pure { state with chunk := state.chunk ++ [projected] } := by
  have length : (state.chunk ++ [projected]).length =
      state.chunk.length + 1 := by
    rw [List.length_append, List.length_singleton]
  unfold acceptSourceRow
  rw [accepted, ← length]
  rfl

theorem acceptSourceRow_rejected {row : SourceRow} {error : String}
    (rejected : project platform identity.importName identity.sourceDigest
      row = .error error) (state : RunState) :
    acceptSourceRow platform identity config state row = .failed error := by
  unfold acceptSourceRow
  rw [rejected]
  rfl

theorem acceptRows_schedule (quiet : config.Uninterrupted)
    {rows : List SourceRow} {projected : List ProjectedRow}
    (accepted : rows.mapM
      (project platform identity.importName identity.sourceDigest) =
        .ok projected) (state : RunState) :
    acceptRows platform identity config state rows =
      Session.submitAll
        (schedule identity state
          (Chunks.fill config.chunkSize state.chunk projected).1)
        (.done
          { (Chunks.fill config.chunkSize state.chunk projected).1.foldl
              stateAfter state with
            chunk := (Chunks.fill config.chunkSize state.chunk
              projected).2 }) := by
  induction rows generalizing projected state with
  | nil =>
      rw [List.mapM_nil, pure_eq_ok] at accepted
      rw [← accepted]
      rfl
  | cons row rest ih =>
      rw [List.mapM_cons, bind_eq_ok] at accepted
      obtain ⟨first, one, accepted⟩ := accepted
      rw [bind_eq_ok] at accepted
      obtain ⟨others, tail, same⟩ := accepted
      rw [pure_eq_ok] at same
      have length : (state.chunk ++ [first]).length =
          state.chunk.length + 1 := by
        rw [List.length_append, List.length_singleton]
      rw [acceptRows, acceptSourceRow_eq one, ← same, Chunks.fill]
      by_cases full : state.chunk.length + 1 = config.chunkSize
      · have nonempty : state.chunk ++ [first] ≠ [] := by
          intro empty
          rw [empty, List.length_nil] at length
          omega
        have flushed := @flushChunk_quiet identity config quiet
          { state with chunk := state.chunk ++ [first] } nonempty
        rw [if_pos full, if_pos full, flushed, Session.submit_bind,
          Session.done_bind, ih tail]
        rfl
      · rw [if_neg full, if_neg full, Session.pure_bind, ih tail,
          schedule_chunk, foldl_stateAfter_chunk]

theorem foldl_stateAfter_empty {state : RunState} (empty : state.chunk = [])
    (groups : List (List ProjectedRow)) :
    (groups.foldl stateAfter state).chunk = [] := by
  induction groups generalizing state with
  | nil => exact empty
  | cons group rest ih =>
      rw [List.foldl_cons]
      exact ih rfl

/-- The last flush commits what is left, if anything is. -/
theorem flushChunk_rest (quiet : config.Uninterrupted) {state : RunState}
    (empty : state.chunk = []) (left : List ProjectedRow) :
    flushChunk identity config { state with chunk := left } =
      Session.submitAll
        (schedule identity state (if left = [] then [] else [left]))
        (.done ((if left = [] then [] else [left]).foldl stateAfter
          state)) := by
  by_cases nothing : left = []
  · rw [if_pos nothing, nothing]
    cases state with
    | mk position chunks rows chunk =>
        cases empty
        rfl
  · rw [if_neg nothing]
    exact @flushChunk_quiet identity config quiet
      { state with chunk := left } nothing

/-- All rows are accepted: every chunk is committed, the last one by the flush
after the loop. -/
theorem readRows_schedule (quiet : config.Uninterrupted)
    (batchSize : 0 < config.readBatchSize)
    (checkpoint : Option Int64 × Nat × Nat) {projected : List ProjectedRow}
    (accepted : (table.after checkpoint.1).mapM
      (project platform identity.importName identity.sourceDigest) =
        .ok projected) :
    readRows platform table identity config (RunState.new checkpoint) =
      Session.submitAll
        (schedule identity (RunState.new checkpoint)
          (Chunks.chunks config.chunkSize projected))
        (.done ((Chunks.chunks config.chunkSize projected).foldl stateAfter
          (RunState.new checkpoint))) := by
  rw [readRows_eq batchSize]
  change acceptRows platform identity config (RunState.new checkpoint)
    (table.after checkpoint.1) >>= flushChunk identity config = _
  rw [acceptRows_schedule quiet accepted, Session.submitAll_bind,
    Session.done_bind]
  have started : (RunState.new checkpoint).chunk = [] := rfl
  unfold Chunks.chunks Chunks.withRest
  rw [started, flushChunk_rest quiet (foldl_stateAfter_empty started _),
    ← Session.submitAll_append, ← schedule_append, ← List.foldl_append]

/-- A row is rejected: the full chunks of the rows before it are committed. -/
theorem readRows_rejected (quiet : config.Uninterrupted)
    (batchSize : 0 < config.readBatchSize)
    (checkpoint : Option Int64 × Nat × Nat) {before rest : List SourceRow}
    {row : SourceRow} {projected : List ProjectedRow} {error : String}
    (split : table.after checkpoint.1 = before ++ row :: rest)
    (accepted : before.mapM
      (project platform identity.importName identity.sourceDigest) =
        .ok projected)
    (rejected : project platform identity.importName identity.sourceDigest
      row = .error error) :
    readRows platform table identity config (RunState.new checkpoint) =
      Session.submitAll
        (schedule identity (RunState.new checkpoint)
          (Chunks.fill config.chunkSize [] projected).1)
        (.failed error) := by
  rw [readRows_eq batchSize]
  change acceptRows platform identity config (RunState.new checkpoint)
    (table.after checkpoint.1) >>= flushChunk identity config = _
  have started : (RunState.new checkpoint).chunk = [] := rfl
  rw [split, acceptRows_append, acceptRows_schedule quiet accepted,
    Session.submitAll_bind, Session.submitAll_bind, Session.done_bind,
    acceptRows, acceptSourceRow_rejected rejected, Session.failed_bind,
    Session.failed_bind, started]

/-! ### Whole runs -/

def identityOf (platform : Platform) (table : SourceTable) (args : RunArgs) :
    ExecutionIdentity :=
  { importName := args.importName
    sourceDigest := compute platform table.rows
    readerMode := args.reader }

/-- A run gets past its checks on a database and loads this checkpoint. -/
structure Begins (platform : Platform) (table : SourceTable) (args : RunArgs)
    (database : Database) (config : RunConfig)
    (checkpoint : Option Int64 × Nat × Nat) : Prop where
  valid : validateRunArgs args = .ok config
  admitted : rejectConflictingSourceIdentity
    (identityOf platform table args) database = .ok ()
  loaded : loadCheckpoint (identityOf platform table args) database =
    .ok checkpoint

theorem readBatchSize_pos {args : RunArgs}
    (valid : validateRunArgs args = .ok config) :
    config.readerMode = args.reader ∧ config.chunkSize = args.chunkSize ∧
      0 < config.chunkSize ∧ 0 < config.readBatchSize := by
  unfold validateRunArgs at valid
  simp only [bind_eq_ok, ensure_eq_ok, pure_eq_ok, exists_const] at valid
  obtain ⟨_, chunkSize, batch, _, batchSize, _, pause, _, _, same⟩ := valid
  rw [← same]
  exact ⟨rfl, rfl, chunkSize.1, batchSize.1⟩

/-- A run with valid arguments asks twice and then reads. -/
theorem run_valid {args : RunArgs}
    (valid : validateRunArgs args = .ok config) :
    run platform table args =
      .ask (fun first =>
        Session.ofExcept (rejectConflictingSourceIdentity
          (identityOf platform table args) first) >>= fun _ =>
        .ask (fun second =>
          Session.ofExcept (loadCheckpoint
            (identityOf platform table args) second) >>= fun checkpoint =>
          readRows platform table (identityOf platform table args) config
            (RunState.new checkpoint))) := by
  have mode := (readBatchSize_pos valid).1
  have identity : identityOf platform table args =
      { importName := args.importName
        sourceDigest := compute platform table.rows
        readerMode := config.readerMode } := by
    rw [mode]
    rfl
  rw [identity]
  unfold run
  rw [valid]
  rfl

theorem run_answered {args : RunArgs} {database : Database}
    {checkpoint : Option Int64 × Nat × Nat}
    (begins : Begins platform table args database config checkpoint) :
    (run platform table args).answered database =
      (readRows platform table (identityOf platform table args) config
        (RunState.new checkpoint)).answered database := by
  rw [run_valid begins.valid]
  simp only [Session.answered, begins.admitted, begins.loaded,
    Session.ofExcept, Session.done_bind]

/-- Rows are all accepted, or one of them is the first to be rejected. -/
theorem accepted_or_rejected (identity : ExecutionIdentity)
    (rows : List SourceRow) :
    (∃ projected, rows.mapM
        (project platform identity.importName identity.sourceDigest) =
          .ok projected) ∨
      ∃ before row rest projected error, rows = before ++ row :: rest ∧
        before.mapM
          (project platform identity.importName identity.sourceDigest) =
            .ok projected ∧
        project platform identity.importName identity.sourceDigest row =
          .error error := by
  induction rows with
  | nil => exact Or.inl ⟨[], rfl⟩
  | cons row rest ih =>
      cases one : project platform identity.importName identity.sourceDigest
          row with
      | error error =>
          exact Or.inr ⟨[], row, rest, [], error, rfl, rfl, one⟩
      | ok first =>
          rcases ih with all | some_
          · obtain ⟨projected, tail⟩ := all
            refine Or.inl ⟨first :: projected, ?_⟩
            rw [List.mapM_cons, one, tail]
            rfl
          · obtain ⟨before, bad, after, projected, error, split, tail,
              rejected⟩ := some_
            refine Or.inr ⟨row :: before, bad, after, first :: projected,
              error, ?_, ?_, rejected⟩
            · rw [split]
              rfl
            · rw [List.mapM_cons, one, tail]
              rfl

/-- The chunks that a run from this checkpoint commits, and how it ends: all
rows behind the checkpoint are committed, or a row is rejected after the full
chunks of the rows before it. -/
def Commits (platform : Platform) (table : SourceTable)
    (identity : ExecutionIdentity) (chunkSize : Nat)
    (checkpoint : Option Int64 × Nat × Nat)
    (groups : List (List ProjectedRow)) (ending : Run RunState) : Prop :=
  (∃ projected, (table.after checkpoint.1).mapM
        (project platform identity.importName identity.sourceDigest) =
          .ok projected ∧
      Chunks.Splits chunkSize projected groups ∧
      ending = .done (groups.foldl stateAfter (RunState.new checkpoint))) ∨
    ∃ before row rest projected error left,
      table.after checkpoint.1 = before ++ row :: rest ∧
        before.mapM
          (project platform identity.importName identity.sourceDigest) =
            .ok projected ∧
        project platform identity.importName identity.sourceDigest row =
          .error error ∧
        Chunks.Fills chunkSize projected groups left ∧
        ending = .failed error

theorem run_accepted {args : RunArgs} {database : Database}
    {checkpoint : Option Int64 × Nat × Nat}
    (begins : Begins platform table args database config checkpoint)
    (quiet : config.Uninterrupted) {projected : List ProjectedRow}
    (accepted : (table.after checkpoint.1).mapM
      (project platform args.importName (compute platform table.rows)) =
        .ok projected) :
    (run platform table args).answered database =
      Session.submitAll
        (schedule (identityOf platform table args) (RunState.new checkpoint)
          (Chunks.chunks args.chunkSize projected))
        (.done ((Chunks.chunks args.chunkSize projected).foldl stateAfter
          (RunState.new checkpoint))) := by
  obtain ⟨_, sizes, _, batchSize⟩ := readBatchSize_pos begins.valid
  have reads := @readRows_schedule platform table
    (identityOf platform table args) config quiet batchSize checkpoint
    projected accepted
  rw [run_answered begins, reads, sizes, Session.answered_submitAll]
  rfl

theorem run_rejected {args : RunArgs} {database : Database}
    {checkpoint : Option Int64 × Nat × Nat}
    (begins : Begins platform table args database config checkpoint)
    (quiet : config.Uninterrupted) {before rest : List SourceRow}
    {row : SourceRow} {projected : List ProjectedRow} {error : String}
    (split : table.after checkpoint.1 = before ++ row :: rest)
    (accepted : before.mapM
      (project platform args.importName (compute platform table.rows)) =
        .ok projected)
    (rejected : project platform args.importName (compute platform table.rows)
      row = .error error) :
    (run platform table args).answered database =
      Session.submitAll
        (schedule (identityOf platform table args) (RunState.new checkpoint)
          (Chunks.fill args.chunkSize [] projected).1)
        (.failed error) := by
  obtain ⟨_, sizes, _, batchSize⟩ := readBatchSize_pos begins.valid
  have reads := @readRows_rejected platform table
    (identityOf platform table args) config quiet batchSize checkpoint
    before rest row projected error split accepted rejected
  rw [run_answered begins, reads, sizes, Session.answered_submitAll]
  rfl

/-- Two uninterrupted runs from one checkpoint, with readers of any kind and
size: they commit the same chunks with the same checkpoints, and end alike. -/
theorem commits_independent {first second : RunArgs}
    {firstConfig secondConfig : RunConfig}
    {firstDatabase secondDatabase : Database}
    {checkpoint : Option Int64 × Nat × Nat}
    (firstBegins : Begins platform table first firstDatabase firstConfig
      checkpoint)
    (secondBegins : Begins platform table second secondDatabase secondConfig
      checkpoint)
    (firstQuiet : firstConfig.Uninterrupted)
    (secondQuiet : secondConfig.Uninterrupted)
    (imports : second.importName = first.importName)
    (sizes : second.chunkSize = first.chunkSize) :
    ∃ groups ending,
      Commits platform table (identityOf platform table first)
          first.chunkSize checkpoint groups ending ∧
        (run platform table first).answered firstDatabase =
          Session.submitAll
            (schedule (identityOf platform table first)
              (RunState.new checkpoint) groups) ending ∧
        (run platform table second).answered secondDatabase =
          Session.submitAll
            (schedule (identityOf platform table second)
              (RunState.new checkpoint) groups) ending := by
  obtain ⟨_, size, positive, _⟩ := readBatchSize_pos firstBegins.valid
  rw [size] at positive
  rcases @accepted_or_rejected platform (identityOf platform table first)
    (table.after checkpoint.1) with all | some_
  · obtain ⟨projected, accepted⟩ := all
    have one := run_accepted firstBegins firstQuiet accepted
    have two := run_accepted secondBegins secondQuiet
      (by rw [imports]; exact accepted)
    rw [sizes] at two
    refine ⟨_, _, Or.inl ⟨projected, accepted, ?_, rfl⟩, one, two⟩
    exact Chunks.chunks_splits positive projected
  · obtain ⟨before, row, rest, projected, error, split, accepted,
      rejected⟩ := some_
    have one := run_rejected firstBegins firstQuiet split accepted rejected
    have two := run_rejected secondBegins secondQuiet split
      (by rw [imports]; exact accepted) (by rw [imports]; exact rejected)
    rw [sizes] at two
    refine ⟨_, _, Or.inr ⟨before, row, rest, projected, error,
      (Chunks.fill first.chunkSize [] projected).2, split, accepted, rejected,
      ?_, rfl⟩, one, two⟩
    exact Chunks.fill_fills [] projected positive

def threeRows : SourceTable :=
  { rows := [⟨-4, "Ada", true, 120⟩, ⟨1, "Bo", false, -250⟩,
      ⟨7, "Cy", true, 50000⟩]
    ascending := by decide
    zeroFree := by
      unfold ZeroFree
      decide }

def argsOf (reader : ReaderMode) (fetchSize pageSize : Option Nat) : RunArgs :=
  { importName := "import"
    reader
    chunkSize := 2
    fetchSize
    pageSize
    failAfterChunk := none
    pauseAtChunk := none
    pausePhase := none
    pauseMarker := none }

def Database.empty : Database := { projections := [], checkpoints := [] }

/-- Three rows in chunks of two: a cursor that fetches row by row, and pages of
two. -/
theorem commits_independent_three :
    ∃ groups ending,
      Commits asciiPlatform threeRows
          (identityOf asciiPlatform threeRows (argsOf .cursor (some 1) none))
          2 (none, 0, 0) groups ending ∧
        (run asciiPlatform threeRows
            (argsOf .cursor (some 1) none)).answered Database.empty =
          Session.submitAll
            (schedule (identityOf asciiPlatform threeRows
              (argsOf .cursor (some 1) none))
              (RunState.new (none, 0, 0)) groups) ending ∧
        (run asciiPlatform threeRows
            (argsOf .paging none (some 2))).answered Database.empty =
          Session.submitAll
            (schedule (identityOf asciiPlatform threeRows
              (argsOf .paging none (some 2)))
              (RunState.new (none, 0, 0)) groups) ending := by
  apply @commits_independent asciiPlatform threeRows
    (argsOf .cursor (some 1) none) (argsOf .paging none (some 2))
    ⟨.cursor, 2, 1, none, none⟩ ⟨.paging, 2, 2, none, none⟩ Database.empty
    Database.empty
  · exact ⟨by decide, rfl, rfl⟩
  · exact ⟨by decide, rfl, rfl⟩
  · exact ⟨rfl, rfl⟩
  · exact ⟨rfl, rfl⟩
  · rfl
  · rfl

end RawSqlx

end Projection
