/-
After any race and any kills, the writer that owns the import completes it
with one more run, and every other writer is refused.
-/

import OxideWorkloads.Projection.RivalsVerified

namespace Projection

open Foundation
open Foundation.Checks

/-! ### Statements that succeed -/

/-- New rows with keys of their own can be inserted. -/
theorem RawSqlx.insertRows_of_free {rows inserted : List ProjectedRow}
    (free : ∀ row ∈ inserted, ∀ other ∈ rows,
      RawSqlx.sameKey row other = false)
    (distinct : inserted.Pairwise (fun earlier later =>
      RawSqlx.sameKey later earlier = false)) :
    RawSqlx.insertRows rows inserted = .ok (rows ++ inserted) := by
  induction inserted generalizing rows with
  | nil =>
      rw [RawSqlx.insertRows, List.append_nil]
  | cons row rest ih =>
      obtain ⟨first, others⟩ := List.pairwise_cons.mp distinct
      have open_ : ¬rows.any (RawSqlx.sameKey row) = true := by
        intro taken
        obtain ⟨other, member, same⟩ := List.any_eq_true.mp taken
        rw [free row List.mem_cons_self other member] at same
        cases same
      rw [RawSqlx.insertRows, if_neg open_, ih _ others, List.append_assoc,
        List.singleton_append]
      intro later member other inRows
      rcases List.mem_append.mp inRows with before | new
      · exact free later (List.mem_cons_of_mem _ member) other before
      · rw [List.mem_singleton.mp new]
        exact first later member

/-- Batches of one engine, given what one batch does. -/
theorem insertBatches_of_free
    {insertBatch : RawSqlx.Database → List ProjectedRow →
      Except String RawSqlx.Database}
    (inserts : ∀ (database : RawSqlx.Database) batch, batch ≠ [] →
      batch.length ≤ RawSqlx.rowsPerStatement →
        insertBatch database batch = (RawSqlx.insertRows database.projections
          batch).map (fun projections => { database with projections }))
    {batches : List (List ProjectedRow)} {database : RawSqlx.Database}
    (nonempty : ∀ batch ∈ batches, batch ≠ [])
    (bounded : ∀ batch ∈ batches, batch.length ≤ RawSqlx.rowsPerStatement)
    (free : ∀ row ∈ batches.flatten, ∀ other ∈ database.projections,
      RawSqlx.sameKey row other = false)
    (distinct : batches.flatten.Pairwise (fun earlier later =>
      RawSqlx.sameKey later earlier = false)) :
    batches.foldlM insertBatch database =
      .ok { database with
        projections := database.projections ++ batches.flatten } := by
  induction batches generalizing database with
  | nil =>
      rw [List.foldlM_nil, List.flatten_nil, List.append_nil]
      rfl
  | cons batch rest ih =>
      rw [List.flatten_cons] at free distinct
      obtain ⟨first, others, apart⟩ := List.pairwise_append.mp distinct
      have one := @RawSqlx.insertRows_of_free database.projections batch
        (fun row member => free row (List.mem_append_left _ member)) first
      rw [List.foldlM_cons, inserts database batch
          (nonempty batch List.mem_cons_self)
          (bounded batch List.mem_cons_self), one, Except.map, ok_bind, ih]
      · rw [List.flatten_cons, List.append_assoc]
      · intro other member
        exact nonempty other (List.mem_cons_of_mem _ member)
      · intro other member
        exact bounded other (List.mem_cons_of_mem _ member)
      · intro row member other inRows
        rcases List.mem_append.mp inRows with before | new
        · exact free row (List.mem_append_right _ member) other before
        · exact apart other new row member
      · exact others

theorem RawSqlx.insertBatch_eq (database : RawSqlx.Database)
    (batch : List ProjectedRow) (_nonempty : batch ≠ [])
    (bounded : batch.length ≤ RawSqlx.rowsPerStatement) :
    RawSqlx.insertBatch database batch =
      (RawSqlx.insertRows database.projections batch).map
        (fun projections => { database with projections }) := by
  have parameters : batch.length * RawSqlx.columnsPerRow ≤
      RawSqlx.maxBoundParameters := Nat.mul_le_mul_right _ bounded
  unfold RawSqlx.insertBatch
  simp only [ensure, bounded, parameters, and_self, if_true, ok_bind]
  cases RawSqlx.insertRows database.projections batch with
  | error error => rfl
  | ok rows => rfl

theorem RawJdbc.insertBatch_eq (database : RawSqlx.Database)
    (batch : List ProjectedRow) (nonempty : batch ≠ [])
    (bounded : batch.length ≤ RawSqlx.rowsPerStatement) :
    RawJdbc.insertBatch database batch =
      (RawSqlx.insertRows database.projections batch).map
        (fun projections => { database with projections }) := by
  have limit : RawJdbc.rowsPerStatement = RawSqlx.rowsPerStatement := rfl
  have parameters : batch.length * RawJdbc.columnsPerRow ≤
      RawJdbc.maxBoundParameters := Nat.mul_le_mul_right _ bounded
  have accepted : ¬(batch = [] ∨ batch.length > RawJdbc.rowsPerStatement ∨
      batch.length * RawJdbc.columnsPerRow > RawJdbc.maxBoundParameters) := by
    intro rejected
    rcases rejected with empty | rows | excess
    · exact nonempty empty
    · omega
    · omega
  unfold RawJdbc.insertBatch
  dsimp only
  rw [ensure, if_pos accepted, ok_bind]
  cases RawSqlx.insertRows database.projections batch with
  | error error => rfl
  | ok rows => rfl

/-- A commit without an injected failure. -/
def Commit.Unfailing : Commit → Prop
  | .rawSqlx transaction => transaction.failAfterChunk = none
  | .rawJdbc transaction => transaction.failAfterChunk = none

/-- A commit of rows with new keys succeeds. -/
theorem Commit.succeeds {commit : Commit} {destination : TargetTables}
    (unfailing : commit.Unfailing)
    (free : ∀ row ∈ commit.content.rows, ∀ other ∈ destination.projections,
      RawSqlx.sameKey row other = false)
    (distinct : commit.content.rows.Pairwise (fun earlier later =>
      RawSqlx.sameKey later earlier = false))
    (chunks : commit.content.committedChunks ≤ i64Max)
    (rows : commit.content.committedRows ≤ i64Max) :
    ∃ after, commit.apply destination = .ok after := by
  have positive : 0 < RawSqlx.rowsPerStatement := by decide
  have splits := Chunks.chunks_splits positive commit.content.rows
  rw [← splits.whole] at free distinct
  cases commit with
  | rawSqlx transaction =>
      have inserted := @insertBatches_of_free _ RawSqlx.insertBatch_eq _
        destination.rawSqlx splits.nonempty splits.bounded free distinct
      have fits : ∀ number : Nat, (number : Int) ≤ i64Max →
          ∃ word, Word.toBigint? number = some word := by
        intro number small
        have low : i64Min ≤ (number : Int) := by
          have bound : i64Min = -9223372036854775808 := rfl
          omega
        exact ⟨⟨number, low, small⟩, Word.toBigint?_eq_some.mpr rfl⟩
      obtain ⟨chunkWord, chunksFit⟩ := fits _ chunks
      obtain ⟨rowWord, rowsFit⟩ := fits _ rows
      have applied : ∃ written, transaction.apply destination.rawSqlx =
          .ok written := by
        unfold RawSqlx.ChunkTransaction.apply
        simp only [bind_eq_ok, ensure_eq_ok, require_eq_ok, pure_eq_ok,
          exists_const]
        refine ⟨_, _, inserted, ?_, chunkWord, chunksFit, rowWord, rowsFit,
          rfl⟩
        have none_ : transaction.failAfterChunk = none := unfailing
        rw [none_]
        exact fun same => by cases same
      obtain ⟨written, applied⟩ := applied
      simp only [Commit.apply, applied, ok_bind]
      exact ⟨_, rfl⟩
  | rawJdbc transaction =>
      have inserted := @insertBatches_of_free _ RawJdbc.insertBatch_eq _
        destination.rawJdbc splits.nonempty splits.bounded free distinct
      have applied : ∃ written, transaction.apply destination.rawJdbc =
          .ok written := by
        unfold RawJdbc.ChunkTransaction.apply
        simp only [bind_eq_ok, ensure_eq_ok, pure_eq_ok, exists_const]
        rw [RawJdbc.statements_eq]
        refine ⟨_, _, inserted, ?_, rfl⟩
        have none_ : transaction.failAfterChunk = none := unfailing
        rw [none_]
        exact fun same => by cases same
      obtain ⟨written, applied⟩ := applied
      simp only [Commit.apply, applied, ok_bind]
      exact ⟨_, rfl⟩

/-! ### The owner's next run -/

variable {platform : Platform} {table : SourceTable} {importName : String}
  {initial : TargetTables} {shared : Shared TargetTables Commit}
  {sessions : List (Session TargetTables Commit String Unit)}
  {writer : Writer} {session : Session TargetTables Commit String Unit}

/-- What continues the prefix can be committed. -/
theorem Continues.succeeds {size : Nat} {commit : Commit}
    (standing : Prefixed platform table importName initial shared)
    (continues : Continues platform table importName writer
      (shared.store.imported platform table importName).length
      shared.log.length size commit)
    (unfailing : commit.Unfailing)
    (fits : (table.rows.length : Int) ≤ i64Max) :
    ∃ after, commit.apply shared.store = .ok after := by
  have bounded := continues.bounded
  have positive := continues.positive
  have counted := standing.counted
  have ascending := table.ascending
  rw [← List.take_append_drop
    (shared.store.imported platform table importName).length table.rows]
    at ascending
  obtain ⟨_, behind, across⟩ := List.pairwise_append.mp ascending
  apply Commit.succeeds unfailing
  · -- A stored row with this key is one of the prefix, whose ids are lower.
    intro row member other stored
    apply decide_eq_false
    intro same
    rw [continues.rows] at member
    obtain ⟨source, inChunk, isRow⟩ := List.mem_map.mp member
    rw [← isRow] at same
    have imported : other ∈
        shared.store.imported platform table importName :=
      List.mem_filter.mpr ⟨stored,
        decide_eq_true ⟨same.1.symm, same.2.1.symm⟩⟩
    rw [standing.rows] at imported
    obtain ⟨earlier, inPrefix, isOther⟩ := List.mem_map.mp imported
    rw [← isOther] at same
    have lower := across earlier inPrefix source
      (List.mem_of_mem_take inChunk)
    have ids : source.customerId = earlier.customerId := same.2.2
    rw [ids] at lower
    exact Int64.lt_irrefl lower
  · rw [continues.rows]
    apply List.pairwise_map.mpr
    apply (behind.sublist (List.take_sublist _ _)).imp
    intro earlier later lower
    apply decide_eq_false
    intro same
    have ids : later.customerId = earlier.customerId := same.2.2
    rw [ids] at lower
    exact Int64.lt_irrefl lower
  · rw [continues.committedChunks]
    omega
  · rw [continues.committedRows]
    omega

/-- An engine rejects no row of the source. -/
def AcceptsAll (project : SourceRow → Except String ProjectedRow)
    (table : SourceTable) : Prop :=
  ∀ row ∈ table.rows, ∃ projected, project row = .ok projected

/-- Runs that would complete if nobody disturbed them: the arguments are valid
and ask for no failure and no pause, no other content is recorded under the
name, and no row is rejected. -/
inductive Willing (platform : Platform) (table : SourceTable)
    (importName : String) (destination : TargetTables) :
    Writer → Session TargetTables Commit String Unit → Prop where
  | rawSqlx {args : RawSqlx.RunArgs} {config : RawSqlx.RunConfig}
      (imports : args.importName = importName)
      (valid : RawSqlx.validateRunArgs args = .ok config)
      (quiet : config.Uninterrupted)
      (admitted : RawSqlx.rejectConflictingSourceIdentity
        (RawSqlx.identityOf platform table args) destination.rawSqlx = .ok ())
      (accepts : AcceptsAll (RawSqlx.project platform args.importName
        (compute platform table.rows)) table) :
      Willing platform table importName destination (.rawSqlx args.reader)
        ((RawSqlx.run platform table args).within TargetTables.rawSqlx
          Commit.rawSqlx)
  | rawJdbc {options : RawJdbc.Options} {config : RawJdbc.RunConfig}
      (imports : config.importName = importName)
      (parsed : RawJdbc.RunConfig.parse options = .ok config)
      (quiet : config.Uninterrupted)
      (admitted : RawJdbc.rejectConflictingSourceIdentity
        (RawJdbc.identityOf platform table config) destination.rawJdbc =
          .ok ())
      (accepts : AcceptsAll (RawJdbc.project platform
        (RawJdbc.identityOf platform table config).toExecutionIdentity)
        table) :
      Willing platform table importName destination
        (.rawJdbc config.readerMode)
        ((RawJdbc.run platform table config).within TargetTables.rawJdbc
          Commit.rawJdbc)

theorem Willing.unloaded
    (willing : Willing platform table importName shared.store writer session) :
    (prefixStore platform table importName initial).Unloaded writer
      session := by
  cases willing with
  | rawSqlx imports valid quiet admitted accepts =>
      rw [← imports]
      exact RawSqlx.unloaded_within _
  | rawJdbc imports parsed quiet admitted accepts =>
      rw [← imports]
      exact RawJdbc.unloaded_within parsed

theorem Willing.rival
    (willing : Willing platform table importName shared.store writer session) :
    Rival platform table importName session := by
  cases willing with
  | rawSqlx imports valid quiet admitted accepts =>
      exact Rival.rawSqlx _ imports
  | rawJdbc imports parsed quiet admitted accepts =>
      exact Rival.rawJdbc parsed imports

theorem AcceptsAll.behind {project : SourceRow → Except String ProjectedRow}
    (accepts : AcceptsAll project table) {rows : List SourceRow}
    (within_ : ∀ row ∈ rows, row ∈ table.rows) :
    ∃ projected, rows.mapM project = .ok projected := by
  induction rows with
  | nil => exact ⟨[], rfl⟩
  | cons row rest ih =>
      obtain ⟨first, one⟩ := accepts row (within_ row List.mem_cons_self)
      obtain ⟨others, tail⟩ := ih (fun other member =>
        within_ other (List.mem_cons_of_mem _ member))
      refine ⟨first :: others, ?_⟩
      rw [List.mapM_cons, one, ok_bind, tail, ok_bind]
      rfl

theorem mem_of_mem_after {position : Option Int64} {row : SourceRow}
    (member : row ∈ table.after position) : row ∈ table.rows := by
  cases position with
  | none => exact member
  | some id => exact List.mem_of_mem_filter member

theorem Session.answered_done {σ τ ρ υ ε α : Type} {view : σ → ρ}
    {wrap : υ → τ} {session : Session ρ υ ε α} {store : σ}
    {transactions : List υ} {value : α}
    (answered : session.answered (view store) =
      Session.submitAll transactions (.done value)) :
    (session.within view wrap).answered store =
      Session.submitAll (transactions.map wrap) (.done ()) := by
  rw [Session.answered_within, answered, Session.within_submitAll]

theorem RawSqlx.schedule_unfailing (identity : RawSqlx.ExecutionIdentity)
    (state : RawSqlx.RunState) (groups : List (List ProjectedRow)) :
    ∀ transaction ∈ RawSqlx.schedule identity state groups,
      transaction.failAfterChunk = none := by
  induction groups generalizing state with
  | nil =>
      intro transaction member
      cases member
  | cons group rest ih =>
      intro transaction member
      rcases List.mem_cons.mp member with same | later
      · rw [same]
      · exact ih _ transaction later

theorem RawSqlx.loads_at {args : RawSqlx.RunArgs} {known chunks : Nat}
    {destination : TargetTables}
    (finds : (destination.checkpointOf args.importName
          (compute platform table.rows) (.rawSqlx args.reader) = none ∧
        known = 0 ∧ chunks = 0) ∨
      ∃ row, destination.checkpointOf args.importName
          (compute platform table.rows) (.rawSqlx args.reader) = some row ∧
        CheckpointAt table known chunks row) :
    ∃ checkpoint, RawSqlx.loadCheckpoint
      (RawSqlx.identityOf platform table args) destination.rawSqlx =
        .ok checkpoint := by
  unfold RawSqlx.loadCheckpoint
  rcases finds with nothing | something
  · obtain ⟨missing, _⟩ := nothing
    change destination.rawSqlx.checkpoints.find? _ = none at missing
    rw [RawSqlx.identityOf, missing]
    exact ⟨_, rfl⟩
  · obtain ⟨row, found, here⟩ := something
    change destination.rawSqlx.checkpoints.find? _ = some row at found
    have chunkCount := here.committedChunks
    have rowCount := here.committedRows
    rw [RawSqlx.identityOf, found]
    refine ⟨(some row.lastCustomerId, row.committedChunks.val.toNat,
      row.committedRows.val.toNat), ?_⟩
    simp only [bind_eq_ok, require_eq_ok, pure_eq_ok]
    exact ⟨_, if_pos (by omega), _, if_pos (by omega), rfl⟩

theorem RawJdbc.chunkSize_pos {options : RawJdbc.Options}
    {config : RawJdbc.RunConfig}
    (parsed : RawJdbc.RunConfig.parse options = .ok config) :
    0 < config.chunkSize := by
  unfold RawJdbc.RunConfig.parse at parsed
  simp only [bind_eq_ok, ensure_eq_ok, pure_eq_ok, exists_const] at parsed
  obtain ⟨_, _, _, _, _, _, chunkSize, positive, parsed⟩ := parsed
  obtain ⟨_, _, _, _, _, _, _, _, _, _, _, same⟩ := parsed
  rw [← same]
  exact RawJdbc.positiveInt_pos positive

theorem length_le_flatten {α : Type} {parts : List (List α)}
    (nonempty : ∀ part ∈ parts, part ≠ []) :
    parts.length ≤ parts.flatten.length := by
  induction parts with
  | nil => exact Nat.le_refl _
  | cons part rest ih =>
      have some_ := List.length_pos_iff.mpr (nonempty part List.mem_cons_self)
      have others := ih (fun other member =>
        nonempty other (List.mem_cons_of_mem _ member))
      rw [List.flatten_cons, List.length_append, List.length_cons]
      omega

/-- A willing run that is answered at once commits what is missing and
returns. -/
theorem Willing.answered
    (kept : (prefixStore platform table importName initial).Kept shared)
    (fits : (table.rows.length : Int) ≤ i64Max)
    (willing : Willing platform table importName shared.store writer
      session) :
    ∃ commits, session.answered shared.store =
        Session.submitAll commits (.done ()) ∧
      ∀ commit ∈ commits, commit.Unfailing := by
  obtain ⟨known, chunks, _, bounded, fewer, finds⟩ :=
    reads_of_kept kept writer
  cases willing with
  | @rawSqlx args config imports valid quiet admitted accepts =>
      rw [← imports] at finds
      obtain ⟨checkpoint, loaded⟩ := RawSqlx.loads_at finds
      obtain ⟨projected, accepted⟩ := accepts.behind
        (fun row => @mem_of_mem_after table checkpoint.1 row)
      have runs := RawSqlx.run_accepted ⟨valid, admitted, loaded⟩ quiet accepted
      refine ⟨_, Session.answered_done runs, ?_⟩
      intro commit member
      obtain ⟨transaction, inside, same⟩ := List.mem_map.mp member
      rw [← same]
      exact RawSqlx.schedule_unfailing _ _ _ transaction inside
  | @rawJdbc options config imports parsed quiet admitted accepts =>
      rw [← imports] at finds
      obtain ⟨behind, chunkCount, rowCount⟩ :=
        RawJdbc.loadCheckpoint_at finds
      rw [← RawJdbc.identityOf_eq] at behind chunkCount rowCount
      obtain ⟨projected, accepted⟩ := accepts.behind (fun row =>
        @mem_of_mem_after table (RawJdbc.loadCheckpoint (RawJdbc.identityOf
          platform table config) shared.store.rawJdbc).lastCustomerId row)
      have rows := (mapM_eq_ok.mp accepted).length_eq
      rw [behind, List.length_drop] at rows
      have fewChunks := length_le_flatten (Chunks.chunks_splits
        (RawJdbc.chunkSize_pos parsed) projected).nonempty
      rw [(Chunks.chunks_splits (RawJdbc.chunkSize_pos parsed)
        projected).whole] at fewChunks
      obtain ⟨transactions, after, reads, _⟩ :=
        @RawJdbc.readRows_schedule platform table
          (RawJdbc.identityOf platform table config) config quiet
          (RawJdbc.readBatchSize_pos parsed)
          (RawSqlx.sourceIdentity platform table importName .cursor) _
          (_, chunks, known) ⟨rfl, chunkCount, rowCount⟩ projected accepted
          ⟨by
            change (chunks + _ : Int) ≤ i64Max
            omega, by
            change (known + _ : Int) ≤ i64Max
            omega⟩
      have runs := RawJdbc.run_answered (⟨parsed, admitted, rfl⟩ :
        RawJdbc.Begins platform table options shared.store.rawJdbc config _)
      have settled : (RawJdbc.run platform table config).answered
          shared.store.rawJdbc =
            Session.submitAll transactions (.done after) := by
        rw [runs, reads, Session.answered_submitAll]
        rfl
      have follows := @RawJdbc.readRows_reads platform table config.importName
        config.readerMode config known chunks
        (RawJdbc.readBatchSize_pos parsed) bounded _ behind chunkCount rowCount
      rw [← RawJdbc.identityOf_eq, reads] at follows
      refine ⟨_, Session.answered_done settled, ?_⟩
      intro commit member
      obtain ⟨transaction, inside, same⟩ := List.mem_map.mp member
      obtain ⟨_, _, _, _, asConfigured⟩ := follows.submits transaction inside
      rw [← same]
      exact asConfigured.trans quiet.1

/-- Runs of both engines race for an import, and all of them are left at some
moment.  If no other writer has a checkpoint of the import, a willing run
completes it when it runs alone, and the verifier then succeeds; if another
one has, the run changes nothing and does not return. -/
theorem rivals_recover
    (fresh : initial.Fresh importName (compute platform table.rows))
    (race : Race Commit.apply (Rival platform table importName)
      { store := initial, log := [] } sessions shared)
    (fits : (table.rows.length : Int) ≤ i64Max)
    (willing : Willing platform table importName shared.store writer
      session) :
    ((∀ other, shared.store.checkpointOf importName
          (compute platform table.rows) other ≠ none → other = writer) →
        ∃ after, Session.Walk Commit.apply session shared (.done ()) after ∧
          ImportedTo platform table importName after.store
            table.rows.length ∧
          ∃ printed, verify platform (after.store.tables table) importName =
            .ok (printed, .ok ())) ∧
      ((∃ other, other ≠ writer ∧ shared.store.checkpointOf importName
            (compute platform table.rows) other ≠ none) →
        ∀ last after, Session.Walk Commit.apply session shared last after →
          after = shared ∧ last ≠ .done ()) := by
  obtain ⟨kept, _⟩ := race_kept fresh race
  have standing : Prefixed platform table importName initial shared :=
    kept.standing
  have unloaded := @Willing.unloaded platform table importName initial _ _ _
    willing
  have owned : ∀ other, shared.store.checkpointOf importName
      (compute platform table.rows) other ≠ none →
        ∃ commit ∈ shared.log, commit.writer = other := by
    intro other present
    by_contra nobody
    apply present
    apply standing.others
    intro commit member same
    exact nobody ⟨commit, member, same⟩
  constructor
  · intro mine
    obtain ⟨commits, answered, unfailing⟩ := willing.answered kept fits
    have alone : ∀ earlier ∈ shared.log, earlier.writer = writer := by
      intro earlier member
      obtain ⟨row, found, _⟩ := standing.owner earlier member
      apply mine
      rw [found]
      exact fun absent => by cases absent
    have walked := @Session.walk_answered _ _ _ _ Commit.apply session shared _
      Session.Walk.start
    have reads := PrefixStore.answered_reads kept unloaded
    rw [answered] at walked reads
    rcases reads with unread | knows
    · cases commits with
      | nil => exact absurd unread id
      | cons first rest => exact absurd unread id
    · obtain ⟨known, chunks, read, follows⟩ := knows
      have whole := read.upToDate alone
      have count := read.chunks whole
      rw [whole, count] at read follows
      obtain ⟨after, completes, _⟩ := PrefixStore.finishes kept
        read.toBelieves follows (by
          intro shared size commit member kept continues
          exact Continues.succeeds kept.standing continues
            (unfailing commit member) fits) walked
      have longer := race.walk willing.rival completes
      have member : .done () ∈ sessions ++
          [(.done () : Session TargetTables Commit String Unit)] :=
        List.mem_append_right _ List.mem_cons_self
      have reached := race_returned fresh longer member
      obtain ⟨printed, outcome, verified, _, _, _, _, succeeds⟩ :=
        verify_prefix reached
      rw [succeeds.mpr rfl] at verified
      exact ⟨after, completes, reached, printed, verified⟩
  · intro foreign last after walks
    obtain ⟨other, different, present⟩ := foreign
    obtain ⟨commit, member, isOther⟩ := owned other present
    have unchanged := PrefixStore.refused kept
      ⟨commit, member, by
        change commit.writer ≠ writer
        rw [isOther]
        exact different⟩ unloaded walks
    exact ⟨unchanged.1, unchanged.2 ()⟩

theorem threeRows_accepted {project : SourceRow → Except String
    ProjectedRow} (accepts : RawSqlx.threeRows.rows.all
      (fun row => (project row).isOk) = true) :
    AcceptsAll project RawSqlx.threeRows := by
  intro row member
  have accepted := List.all_eq_true.mp accepts row member
  cases projected : project row with
  | ok value => exact ⟨value, rfl⟩
  | error error =>
      rw [projected] at accepted
      cases accepted

/-- After the raw sqlx engine has overtaken the raw JDBC engine: the cursor run
of the first completes the import, and a paging run of the second is refused. -/
theorem rivals_recover_overtaken :
    ∃ sessions shared, Race Commit.apply
        (Rival asciiPlatform RawSqlx.threeRows "import")
        { store := TargetTables.empty, log := [] } sessions shared ∧
      shared.log.length = 1 ∧
      (∃ after, Session.Walk Commit.apply
          ((RawSqlx.run asciiPlatform RawSqlx.threeRows
            RawSqlx.oneByOne).within TargetTables.rawSqlx Commit.rawSqlx)
          shared (.done ()) after ∧
        ImportedTo asciiPlatform RawSqlx.threeRows "import" after.store 3) ∧
      ∀ last after, Session.Walk Commit.apply
        ((RawJdbc.run asciiPlatform RawSqlx.threeRows
          RawJdbc.pagesOfTwoConfig).within TargetTables.rawJdbc
            Commit.rawJdbc) shared last after →
          after = shared ∧ last ≠ .done () := by
  obtain ⟨sessions, shared, race, _, one, sqlxAdmits, jdbcAdmits, owner⟩ :=
    overtaken
  have fresh := TargetTables.empty_fresh "import"
    (compute asciiPlatform RawSqlx.threeRows.rows)
  have again : Willing asciiPlatform RawSqlx.threeRows "import" shared.store
      (.rawSqlx .cursor) ((RawSqlx.run asciiPlatform RawSqlx.threeRows
        RawSqlx.oneByOne).within TargetTables.rawSqlx Commit.rawSqlx) :=
    @Willing.rawSqlx asciiPlatform RawSqlx.threeRows "import" shared.store
      RawSqlx.oneByOne ⟨.cursor, 1, 500, none, none⟩ rfl (by decide)
      ⟨rfl, rfl⟩ sqlxAdmits (threeRows_accepted rfl)
  have other : Willing asciiPlatform RawSqlx.threeRows "import" shared.store
      (.rawJdbc .paging) ((RawJdbc.run asciiPlatform RawSqlx.threeRows
        RawJdbc.pagesOfTwoConfig).within TargetTables.rawJdbc
          Commit.rawJdbc) :=
    @Willing.rawJdbc asciiPlatform RawSqlx.threeRows "import" shared.store
      RawJdbc.pagesOfTwo RawJdbc.pagesOfTwoConfig rfl rfl ⟨rfl, rfl⟩
      jdbcAdmits (threeRows_accepted rfl)
  obtain ⟨after, completes, reached, _⟩ :=
    (rivals_recover fresh race (by decide) again).1 (fun writer present =>
      (owner writer).mp present)
  exact ⟨sessions, shared, race, one, ⟨after, completes, reached⟩,
    (rivals_recover fresh race (by decide) other).2
      ⟨.rawSqlx .cursor, by decide, (owner _).mpr rfl⟩⟩

end Projection
