/-
What the three operations read is what they identified, whatever other
sessions do meanwhile.

Each of them begins its transaction before its first statement and ends it
after its last one, so among other sessions it returns what it returns on one
content; on one content the engine's run and the verifier are those over a
given table.
-/

import OxideWorkloads.Projection.RawSqlxReaders
import OxideWorkloads.Projection.StableRead
import OxideWorkloads.Projection.VerifyExact

namespace Projection

open Foundation
open Foundation.Checks

/-! ### The lock spans the statements -/

section Job

variable {σ τ Status : Type} [DecidableEq Status] {completed : Status}
  {text : Status → String} {launchChunk : Job.Launch → SourceProgram σ τ Status}

theorem Job.launchAndFinish_inside {α : Type}
    (reads : ∀ launch, (launchChunk launch).ReadsOnly) (launch : Job.Launch)
    {next : Unit → SourceProgram σ τ α} (follows : (next ()).Outside) :
    (Job.launchAndFinish completed text launchChunk launch >>=
      next).Inside := by
  unfold Job.launchAndFinish
  rw [Guarded.bind_assoc]
  apply (reads launch).inside_bind
  intro status
  rw [Guarded.bind_assoc]
  apply Guarded.inside_finish
  apply Guarded.outside_ofExcept
  intro _
  exact follows

theorem Job.run_before (reads : ∀ launch, (launchChunk launch).ReadsOnly)
    (platform : Platform) (args : Job.RunArgs) :
    (Job.run completed text launchChunk platform args).Before := by
  unfold Job.run
  apply Guarded.before_ofExcept
  intro _
  apply Guarded.before_begin
  apply Guarded.inside_select
  intro source
  apply Job.launchAndFinish_inside reads
  trivial

end Job

theorem verifyLocked_before (platform : Platform) (importName : String) :
    (verifyLocked platform importName).Before := by
  unfold verifyLocked
  apply Guarded.before_begin
  apply Guarded.inside_select
  intro identified
  apply Guarded.inside_select
  intro source
  apply Guarded.inside_snapshot
  intro stored
  apply Guarded.inside_ofExcept
  intro _
  apply Guarded.inside_ofExcept
  intro _
  apply Guarded.inside_ofExcept
  intro state
  apply Guarded.inside_finish
  apply Guarded.outside_ofExcept
  intro _
  trivial

namespace RawSqlx

variable {platform : Platform} {table : SourceTable}
  {identity : ExecutionIdentity} {config : RunConfig}

theorem pagingLoopLocked_readsOnly (position : Option Int64)
    (state : RunState) :
    (pagingLoopLocked platform identity config position state).ReadsOnly := by
  induction bound : idsAbove position using Nat.strongRecOn
    generalizing position state
  rename_i bound ih
  rw [pagingLoopLocked]
  apply Guarded.readsOnly_select
  intro page
  split
  · trivial
  · rename_i last found
    apply (Guarded.ofSession_readsOnly _).bind
    intro state
    apply ih _ _ _ _ rfl
    have shorter := idsAbove_lt page.2 found
    omega

theorem readRowsLocked_readsOnly (state : RunState) :
    (readRowsLocked platform identity config state).ReadsOnly := by
  unfold readRowsLocked
  cases config.readerMode with
  | cursor =>
      apply Guarded.ReadsOnly.bind
      · apply Guarded.readsOnly_select
        intro rows
        exact Guarded.ofSession_readsOnly _
      · intro state
        exact Guarded.ofSession_readsOnly _
  | paging =>
      apply (pagingLoopLocked_readsOnly _ _).bind
      intro state
      exact Guarded.ofSession_readsOnly _

theorem runLocked_before (platform : Platform) (args : RunArgs) :
    (runLocked platform args).Before := by
  unfold runLocked
  apply Guarded.before_ofExcept
  intro config
  apply Guarded.before_begin
  apply Guarded.inside_select
  intro source
  apply Guarded.inside_snapshot
  intro first
  apply Guarded.inside_ofExcept
  intro _
  apply Guarded.inside_snapshot
  intro database
  apply Guarded.inside_ofExcept
  intro checkpoint
  apply (readRowsLocked_readsOnly _).inside_bind
  intro state
  apply Guarded.inside_finish
  trivial

/-! ### On one content -/

theorem sourceDigest_eq (platform : Platform) (rows : List SourceRow) :
    sourceDigest platform rows = compute platform rows := by
  unfold sourceDigest compute
  rw [sourceStream_eq]

theorem pagingLoop_nothing {table : SourceTable} {position : Option Int64}
    (nothing : (fetchPage table position config.readBatchSize).getLast? = none)
    (state : RunState) :
    pagingLoop platform table identity config position state = pure state := by
  rw [pagingLoop]
  split
  · rfl
  · rename_i last found
    rw [nothing] at found
    cases found

theorem pagingLoop_page {table : SourceTable} {position : Option Int64}
    {last : SourceRow}
    (page : (fetchPage table position config.readBatchSize).getLast? =
      some last) (state : RunState) :
    pagingLoop platform table identity config position state =
      acceptRows platform identity config state
          (fetchPage table position config.readBatchSize) >>=
        pagingLoop platform table identity config (some last.customerId) := by
  rw [pagingLoop]
  split
  · rename_i nothing
    rw [page] at nothing
    cases nothing
  · rename_i other found
    rw [page] at found
    cases found
    rfl

theorem pagingLoopLocked_fixed (table : SourceTable)
    (position : Option Int64) (state : RunState) :
    (pagingLoopLocked platform identity config position state).fixed table =
      pagingLoop platform table identity config position state := by
  induction bound : idsAbove position using Nat.strongRecOn
    generalizing position state
  rename_i bound ih
  rw [pagingLoopLocked, Guarded.fixed_select]
  dsimp only
  split
  · rename_i nothing
    exact (pagingLoop_nothing nothing state).symm
  · rename_i last page
    rw [Guarded.fixed_bind, Guarded.fixed_ofSession, pagingLoop_page page]
    apply congrArg
    funext state
    apply ih _ _ _ _ rfl
    have shorter := idsAbove_lt ⟨table, rfl⟩ page
    omega

theorem readRowsLocked_fixed (table : SourceTable) (state : RunState) :
    (readRowsLocked platform identity config state).fixed table =
      readRows platform table identity config state := by
  have flushed : ∀ state : RunState,
      (Guarded.ofSession (flushChunk identity config state) :
        LockedRun RunState).fixed table = flushChunk identity config state :=
    fun state => Guarded.fixed_ofSession table _
  unfold readRowsLocked readRows
  cases config.readerMode with
  | cursor =>
      dsimp only
      rw [Guarded.fixed_bind]
      simp only [flushed]
      apply congrArg (fun session => session >>= flushChunk identity config)
      unfold runCursorLocked runCursor
      exact Guarded.fixed_ofSession table _
  | paging =>
      dsimp only
      rw [Guarded.fixed_bind, pagingLoopLocked_fixed]
      simp only [flushed]
      rfl

/-- On one content the run is the one over that table. -/
theorem runLocked_fixed (table : SourceTable) (args : RunArgs) :
    (runLocked platform args).fixed table =
      run platform table args >>=
        (fun state => pure (compute platform table.rows, state)) := by
  rw [← sourceDigest_eq]
  unfold runLocked run
  rw [← sourceDigest_eq, Guarded.fixed_bind, Guarded.fixed_ofExcept]
  cases validateRunArgs args with
  | error error => rfl
  | ok config =>
      let identity : ExecutionIdentity :=
        { importName := args.importName
          sourceDigest := sourceDigest platform table.rows
          readerMode := config.readerMode }
      let ends (checkpoint : Option Int64 × Nat × Nat) :
          LockedRun (String × RunState) := do
        let state ← readRowsLocked platform identity config
          (RunState.new checkpoint)
        Guarded.finish
        return (sourceDigest platform table.rows, state)
      have read : ∀ checkpoint, (ends checkpoint).fixed table =
          readRows platform table identity config (RunState.new checkpoint) >>=
            fun state => pure (sourceDigest platform table.rows, state) := by
        intro checkpoint
        change Guarded.fixed table (_ >>= _) = _
        rw [Guarded.fixed_bind, readRowsLocked_fixed]
        rfl
      change Session.ask _ = Session.ask _
      apply congrArg
      funext first
      change Guarded.fixed table (Guarded.ofExcept
        (rejectConflictingSourceIdentity identity first) >>= _) =
          (Session.ofExcept (rejectConflictingSourceIdentity identity first) >>=
            _) >>= _
      cases rejectConflictingSourceIdentity identity first with
      | error error => rfl
      | ok _ =>
          change Session.ask _ = Session.ask _
          apply congrArg
          funext second
          change Guarded.fixed table (Guarded.ofExcept
            (loadCheckpoint identity second) >>= ends) =
              (Session.ofExcept (loadCheckpoint identity second) >>= _) >>= _
          cases loadCheckpoint identity second with
          | error error => rfl
          | ok checkpoint => exact read checkpoint

/-! ### The pages -/

theorem pagingLoopLocked_rows (positive : 0 < config.readBatchSize)
    {position : Option Int64} {state result : RunState}
    {trace : List (Guarded.Event SourceTable SourceRow Database
      ChunkTransaction)}
    (returns : Guarded.Returns table
      (pagingLoopLocked platform identity config position state) trace
      result) :
    (Guarded.rowsRead trace).flatten = table.after position := by
  induction bound : idsAbove position using Nat.strongRecOn
    generalizing position state trace
  rename_i bound ih
  rw [pagingLoopLocked] at returns
  obtain ⟨rest, same, follows⟩ := returns.of_select
  rw [same]
  change fetchPage table position config.readBatchSize ++
    (Guarded.rowsRead rest).flatten = _
  have split := List.take_append_drop config.readBatchSize
    (table.after position)
  dsimp only at follows
  split at follows
  · rename_i found
    have nothing : (table.after position).take config.readBatchSize = [] :=
      List.getLast?_eq_none_iff.mp found
    have empty : table.after position = [] := by
      rcases List.take_eq_nil_iff.mp nothing with zero | empty
      · omega
      · exact empty
    cases follows
    rw [fetchPage, nothing, empty]
    rfl
  · rename_i last found
    obtain ⟨first, second, middle, both, accepts, onward⟩ := follows.bind_inv
    have shorter := idsAbove_lt ⟨table, rfl⟩ found
    have behind := ih _ (by omega) onward rfl
    have member : last ∈ table.after position :=
      List.mem_of_mem_take (List.mem_of_getLast? found)
    rw [after_after member, above_last (after_ascending table position) found]
      at behind
    rw [both, Guarded.rowsRead_append, accepts.ofSession_rowsRead,
      List.nil_append, behind]
    exact split

theorem readRowsLocked_rows (positive : 0 < config.readBatchSize)
    {state result : RunState}
    {trace : List (Guarded.Event SourceTable SourceRow Database
      ChunkTransaction)}
    (returns : Guarded.Returns table
      (readRowsLocked platform identity config state) trace result) :
    (Guarded.rowsRead trace).flatten = table.after state.durablePosition := by
  unfold readRowsLocked at returns
  cases mode : config.readerMode with
  | cursor =>
      rw [mode] at returns
      obtain ⟨first, second, middle, both, reads, flushes⟩ :=
        Guarded.Returns.bind_inv returns
      obtain ⟨rest, same, accepts⟩ := Guarded.Returns.of_select reads
      rw [both, Guarded.rowsRead_append, flushes.ofSession_rowsRead,
        List.append_nil, same]
      change table.after state.durablePosition ++
        (Guarded.rowsRead rest).flatten = _
      rw [accepts.ofSession_rowsRead]
      exact List.append_nil _
  | paging =>
      rw [mode] at returns
      obtain ⟨first, second, middle, both, reads, flushes⟩ :=
        Guarded.Returns.bind_inv returns
      rw [both, Guarded.rowsRead_append, flushes.ofSession_rowsRead,
        List.append_nil]
      exact pagingLoopLocked_rows positive reads

/-- What a run has read when it returns: the whole content, and the rows after
the checkpoint that it loaded. -/
theorem runLocked_returns {args : RunArgs} {digest : String}
    {state : RunState}
    {trace : List (Guarded.Event SourceTable SourceRow Database
      ChunkTransaction)}
    (returns : Guarded.Returns table (runLocked platform args) trace
      (digest, state)) :
    digest = compute platform table.rows ∧
      ∃ first database checkpoint rest,
        trace = .read SourceTable.selectAll table.rows :: .answer first ::
          .answer database :: rest ∧
        loadCheckpoint (identityOf platform table args) database =
          .ok checkpoint ∧
        (Guarded.rowsRead rest).flatten = table.after checkpoint.1 := by
  obtain ⟨config, valid, returns⟩ := returns.of_ofExcept
  obtain ⟨mode, _, _, positive⟩ := readBatchSize_pos valid
  obtain ⟨rest, whole, returns⟩ := returns.of_begin.of_select
  obtain ⟨first, later, asked, returns⟩ :=
    Guarded.Returns.of_snapshot returns
  obtain ⟨_, _, returns⟩ := returns.of_ofExcept
  obtain ⟨database, last, again, returns⟩ := returns.of_snapshot
  obtain ⟨checkpoint, loaded, returns⟩ := returns.of_ofExcept
  obtain ⟨reads, ending, result, both, reading, returns⟩ := returns.bind_inv
  have finished := returns.of_finish
  dsimp only at loaded finished
  rw [mode, sourceDigest_eq] at loaded
  cases finished
  constructor
  · exact sourceDigest_eq platform table.rows
  · refine ⟨first, database, checkpoint, last, ?_, loaded, ?_⟩
    · rw [whole, asked, again]
      rfl
    · rw [both, List.append_nil]
      exact readRowsLocked_rows positive reading

end RawSqlx

/-! ### The workload's run and the verifier -/

section Job

variable {σ τ Status : Type} [DecidableEq Status] {completed : Status}
  {text : Status → String} {launchChunk : Job.Launch → SourceProgram σ τ Status}

theorem Job.run_returns {platform : Platform} {table : SourceTable}
    {args : Job.RunArgs} {identity : Job.JobParameters}
    {trace : List (Guarded.Event SourceTable SourceRow σ τ)}
    (returns : Guarded.Returns table
      (Job.run completed text launchChunk platform args) trace identity) :
    identity = Job.parameters args.importName (compute platform table.rows)
        args.readerMode ∧
      ∃ rest, trace = .read SourceTable.selectAll table.rows :: rest := by
  obtain ⟨_, _, returns⟩ := returns.of_ofExcept
  obtain ⟨rest, whole, returns⟩ := returns.of_begin.of_select
  obtain ⟨_, _, _, _, _, returns⟩ := Guarded.Returns.bind_inv returns
  cases returns
  exact ⟨rfl, rest, whole⟩

end Job

theorem verifyLocked_returns {platform : Platform} {table : SourceTable}
    {importName : String} {printed : VerifyReport}
    {trace : List (Guarded.Event SourceTable SourceRow Destination Empty)}
    (returns : Guarded.Returns table (verifyLocked platform importName) trace
      printed) :
    printed.sourceDigest = compute platform table.rows ∧
      Guarded.rowsRead trace = [table.rows, table.rows] := by
  obtain ⟨first, whole, returns⟩ := returns.of_begin.of_select
  obtain ⟨second, again, returns⟩ := Guarded.Returns.of_select returns
  obtain ⟨stored, rest, asked, returns⟩ := returns.of_snapshot
  obtain ⟨source, _, returns⟩ := returns.of_ofExcept
  obtain ⟨destination, _, returns⟩ := returns.of_ofExcept
  obtain ⟨state, _, returns⟩ := returns.of_ofExcept
  obtain ⟨_, _, returns⟩ := returns.of_finish.of_ofExcept
  rw [whole, again, asked]
  cases returns
  exact ⟨rfl, rfl⟩

/-- On one content the verifier is the one over that table. -/
theorem verifyLocked_fixed (platform : Platform) (table : SourceTable)
    (importName : String) :
    (verifyLocked platform importName).fixed table =
      .ask (fun stored => Session.ofExcept (do
        let (printed, outcome) ← verify platform
          { source := table.rows.map .ok, destination := stored } importName
        outcome
        return printed)) := by
  change Session.ask _ = Session.ask _
  apply congrArg
  funext stored
  unfold verify
  rw [readDigest_ok]
  change Guarded.fixed table (Guarded.ofExcept
    (tryNext (table.rows.map Except.ok)) >>= _) = Session.ofExcept
      ((tryNext (table.rows.map Except.ok) >>= _) >>= _)
  cases tryNext (table.rows.map Except.ok) with
  | error error => rfl
  | ok source =>
      change Guarded.fixed table (Guarded.ofExcept (tryNext
        (stored importName (compute platform table.rows))) >>= _) =
          Session.ofExcept ((tryNext
            (stored importName (compute platform table.rows)) >>= _) >>= _)
      cases tryNext (stored importName (compute platform table.rows)) with
      | error error => rfl
      | ok destination =>
          let merged := mergeLoop (expectedProjection platform)
            (source.1.map (expectedProjection platform)) destination.1 source.2
            destination.2 .start
          change Guarded.fixed table (Guarded.ofExcept merged >>= _) =
            Session.ofExcept ((merged >>= _) >>= _)
          cases merged with
          | error error => rfl
          | ok state =>
              let outcome := (report platform importName
                (compute platform table.rows) state).conclude
              change Guarded.fixed table (Guarded.ofExcept outcome >>= _) =
                Session.ofExcept (outcome >>= _)
              cases outcome with
              | error error => rfl
              | ok _ => rfl

/-! ### Among other sessions -/

/-- Every statement got its rows from this table. -/
def ReadsFrom {σ τ : Type} (table : SourceTable)
    (trace : List (Guarded.Event SourceTable SourceRow σ τ)) : Prop :=
  ∀ query rows, .read query rows ∈ trace → rows = query table

/-- When an operation has returned, there is one content that it computed its
digest of and that all its statements read: the pages and cursors of both
engines and the second pass of the verifier. -/
theorem stableRead_exact (platform : Platform) :
    (∀ {σ τ Status : Type} [DecidableEq Status] (completed : Status)
      (text : Status → String)
      (launchChunk : Job.Launch → SourceProgram σ τ Status),
      (∀ launch, (launchChunk launch).ReadsOnly) →
      ∀ args world identity,
        Guarded.Run (Job.run completed text launchChunk platform args) world →
        world.program = .done identity →
        ∃ table : SourceTable,
          identity = Job.parameters args.importName
            (compute platform table.rows) args.readerMode ∧
          ReadsFrom table world.trace ∧
          ∃ rest, world.trace =
            .read SourceTable.selectAll table.rows :: rest) ∧
    (∀ importName world printed,
      Guarded.Run (verifyLocked platform importName) world →
      world.program = .done printed →
      ∃ table : SourceTable,
        printed.sourceDigest = compute platform table.rows ∧
        ReadsFrom table world.trace ∧
        Guarded.rowsRead world.trace = [table.rows, table.rows]) ∧
    (∀ args world digest state,
      Guarded.Run (RawSqlx.runLocked platform args) world →
      world.program = .done (digest, state) →
      ∃ table : SourceTable,
        digest = compute platform table.rows ∧
        ReadsFrom table world.trace ∧
        ∃ first database checkpoint rest,
          world.trace = .read SourceTable.selectAll table.rows ::
            .answer first :: .answer database :: rest ∧
          RawSqlx.loadCheckpoint (RawSqlx.identityOf platform table args)
            database = .ok checkpoint ∧
          (Guarded.rowsRead rest).flatten = table.after checkpoint.1) := by
  constructor
  · intro σ τ Status _ completed text launchChunk reads args world identity
      run returned
    obtain ⟨table, returns⟩ := run.returns
      (Job.run_before reads platform args) returned
    obtain ⟨same, first⟩ := Job.run_returns returns
    exact ⟨table, same, fun _ _ member => returns.rows_eq member, first⟩
  constructor
  · intro importName world printed run returned
    obtain ⟨table, returns⟩ := run.returns
      (verifyLocked_before platform importName) returned
    obtain ⟨same, both⟩ := verifyLocked_returns returns
    exact ⟨table, same, fun _ _ member => returns.rows_eq member, both⟩
  · intro args world digest state run returned
    obtain ⟨table, returns⟩ := run.returns
      (RawSqlx.runLocked_before platform args) returned
    obtain ⟨same, rest⟩ := RawSqlx.runLocked_returns returns
    exact ⟨table, same, fun _ _ member => returns.rows_eq member, rest⟩

/-! ### Three rows -/

/-- A launcher that reads two pages and commits each as a chunk. -/
def twoPages (launch : Job.Launch) :
    SourceProgram Unit (List SourceRow) Bool := do
  let first ← Guarded.select
    (fun table => RawSqlx.fetchPage table none launch.readBatchSize)
  Guarded.ofSession (.submit first.1 (.done ()))
  let second ← Guarded.select (fun table => RawSqlx.fetchPage table
    (first.1.getLast?.map (fun row => row.customerId)) launch.readBatchSize)
  Guarded.ofSession (.submit second.1 (.done ()))
  return true

def twoPagesArgs : Job.RunArgs :=
  { importName := "import"
    chunkSize := 2
    readerMode := .paging
    fetchSize := none
    pageSize := some 2
    failAtChunk := 0
    failureMode := .duringWrite
    pauseForKill := none }

theorem twoPages_readsOnly (launch : Job.Launch) :
    (twoPages launch).ReadsOnly := by
  intro first second
  trivial

theorem twoPages_returns : ∃ identity, Guarded.SessionReturns
    ((Job.run true toString twoPages asciiPlatform twoPagesArgs).fixed
      RawSqlx.threeRows) identity :=
  ⟨_, .submit _ (.submit _ (.done _))⟩

theorem verifyLocked_accepts (platform : Platform) (table : SourceTable)
    (importName : String) : ∃ printed, Guarded.SessionReturns
      ((verifyLocked platform importName).fixed table) printed := by
  rw [verifyLocked_fixed]
  let stored : Destination := fun _ _ =>
    (table.rows.map (projected platform)).map .ok
  let printed := report platform importName (compute platform table.rows)
    (mergedState platform table.rows (table.rows.map (projected platform)))
  have accepted : printed.conclude = .ok () := conclude_merged.mpr rfl
  have runs : verify platform
      { source := table.rows.map .ok, destination := stored } importName =
        .ok (printed, printed.conclude) := verify_runs rfl rfl
  exists printed
  apply Guarded.SessionReturns.ask stored
  rw [runs]
  change Guarded.SessionReturns (Session.ofExcept
    (printed.conclude >>= fun _ => pure printed)) printed
  rw [accepted]
  exact .done printed

theorem runLocked_three : ∃ value, Guarded.SessionReturns
    ((RawSqlx.runLocked asciiPlatform
      (RawSqlx.argsOf .paging none (some 2))).fixed RawSqlx.threeRows)
        value := by
  let args := RawSqlx.argsOf .paging none (some 2)
  let config : RawSqlx.RunConfig := ⟨.paging, 2, 2, none, none⟩
  let identity :=
    RawSqlx.identityOf asciiPlatform RawSqlx.threeRows args
  have valid : RawSqlx.validateRunArgs args = .ok config := by decide
  have quiet : config.Uninterrupted := ⟨rfl, rfl⟩
  obtain ⟨projected, accepted⟩ : ∃ projected,
      (RawSqlx.threeRows.after none).mapM (RawSqlx.project asciiPlatform
        identity.importName identity.sourceDigest) = .ok projected :=
    ⟨_, rfl⟩
  obtain ⟨state, reads⟩ : ∃ state, Guarded.SessionReturns
      (RawSqlx.readRows asciiPlatform RawSqlx.threeRows identity config
        (RawSqlx.RunState.new (none, 0, 0))) state := by
    rw [RawSqlx.readRows_schedule quiet (by decide) (none, 0, 0) accepted]
    exact ⟨_, .submitAll (.done _)⟩
  have runs : Guarded.SessionReturns
      (RawSqlx.run asciiPlatform RawSqlx.threeRows args) state := by
    rw [RawSqlx.run_valid valid]
    exact .ask RawSqlx.Database.empty (.ask RawSqlx.Database.empty reads)
  rw [RawSqlx.runLocked_fixed]
  exact ⟨_, runs.bind (.done _)⟩

/-- The three operations over three rows. -/
theorem stableRead_exact_three :
    (∃ table world identity, Guarded.Run
      (Job.run true toString twoPages asciiPlatform twoPagesArgs) world ∧
        world.program = .done identity ∧ ReadsFrom table world.trace) ∧
    (∃ table : SourceTable, ∃ world printed,
      Guarded.Run (verifyLocked asciiPlatform "import") world ∧
        world.program = .done printed ∧
        Guarded.rowsRead world.trace = [table.rows, table.rows]) ∧
    (∃ table world digest state, Guarded.Run (RawSqlx.runLocked asciiPlatform
      (RawSqlx.argsOf .paging none (some 2))) world ∧
        world.program = .done (digest, state) ∧
        digest = compute asciiPlatform table.rows ∧
        ReadsFrom table world.trace) := by
  obtain ⟨jobs, verifier, engine⟩ := stableRead_exact asciiPlatform
  constructor
  · obtain ⟨identity, returns⟩ := twoPages_returns
    obtain ⟨world, run, returned⟩ := (Guarded.runs_iff
      (Job.run_before twoPages_readsOnly asciiPlatform twoPagesArgs)).mpr
        ⟨_, returns⟩
    obtain ⟨table, _, reads, _⟩ := jobs true toString twoPages
      twoPages_readsOnly twoPagesArgs world identity run returned
    exact ⟨table, world, identity, run, returned, reads⟩
  constructor
  · obtain ⟨printed, returns⟩ :=
      verifyLocked_accepts asciiPlatform RawSqlx.threeRows "import"
    obtain ⟨world, run, returned⟩ := (Guarded.runs_iff
      (verifyLocked_before asciiPlatform "import")).mpr ⟨_, returns⟩
    obtain ⟨table, _, _, both⟩ := verifier "import" world printed run returned
    exact ⟨table, world, printed, run, returned, both⟩
  · obtain ⟨⟨digest, state⟩, returns⟩ := runLocked_three
    obtain ⟨world, run, returned⟩ := (Guarded.runs_iff
      (RawSqlx.runLocked_before asciiPlatform
        (RawSqlx.argsOf .paging none (some 2)))).mpr ⟨_, returns⟩
    obtain ⟨table, same, reads, _⟩ :=
      engine _ world digest state run returned
    exact ⟨table, world, digest, state, run, returned, same, reads⟩

end Projection
