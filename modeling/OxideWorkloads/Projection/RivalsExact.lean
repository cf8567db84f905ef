/-
Whatever runs of both engines race for one import of one source: the rows of
the import are at every moment the projections of a prefix of the source, each
once, and only one engine with one reader ever has a checkpoint, which is that
of the prefix.
-/

import OxideWorkloads.Projection.Rivals

namespace Projection

open Foundation
open Foundation.Checks

/-! ### A commit -/

theorem RawSqlx.apply_writes {transaction : RawSqlx.ChunkTransaction}
    {database after : RawSqlx.Database}
    (applied : transaction.apply database = .ok after) :
    ∃ row : RawSqlx.CheckpointRow,
      after.checkpoints = RawSqlx.upsertCheckpoint transaction.identity row
        database.checkpoints ∧
      row.belongsTo transaction.identity = true ∧
      transaction.committed.Recorded row := by
  unfold RawSqlx.ChunkTransaction.apply at applied
  simp only [bind_eq_ok, ensure_eq_ok, require_eq_ok, pure_eq_ok,
    exists_const, Word.toBigint?_eq_some] at applied
  obtain ⟨written, inserts, _, chunks, chunksValue, rows, rowsValue, same⟩ :=
    applied
  obtain ⟨between, _⟩ := RawSqlx.insertBatches_eq_ok inserts
  rw [← same, between]
  refine ⟨_, rfl, ?_, rfl, chunksValue, rowsValue⟩
  simp [RawSqlx.CheckpointRow.belongsTo]

theorem RawJdbc.apply_writes {transaction : RawJdbc.ChunkTransaction}
    {database after : RawSqlx.Database}
    (applied : transaction.apply database = .ok after) :
    after.projections = database.projections ++ transaction.chunk ∧
      (∀ row ∈ transaction.chunk, ∀ other ∈ database.projections,
        RawSqlx.sameKey row other = false) ∧
      ∃ row : RawSqlx.CheckpointRow,
        after.checkpoints = RawJdbc.upsertCheckpoint transaction.identity row
          database.checkpoints ∧
        RawJdbc.belongsTo row transaction.identity = true ∧
        transaction.committed.Recorded row := by
  unfold RawJdbc.ChunkTransaction.apply at applied
  simp only [bind_eq_ok, ensure_eq_ok, pure_eq_ok, exists_const] at applied
  obtain ⟨written, inserts, _, same⟩ := applied
  obtain ⟨between, free⟩ := RawJdbc.insertBatches_eq_ok inserts
  have positive : 0 < RawSqlx.rowsPerStatement := by decide
  have whole := (Chunks.chunks_splits positive transaction.chunk).whole
  rw [RawJdbc.statements_eq, whole] at between free
  rw [← same, between]
  refine ⟨rfl, free, _, rfl, ?_, rfl, rfl, rfl⟩
  simp [RawJdbc.belongsTo]

theorem RawSqlx.asStr_injective {first second : RawSqlx.ReaderMode}
    (same : first.asStr = second.asStr) : first = second := by
  cases first with
  | cursor =>
      cases second with
      | cursor => rfl
      | paging =>
          exact absurd same (by decide)
  | paging =>
      cases second with
      | cursor =>
          exact absurd same (by decide)
      | paging => rfl

/-- Different identities have different checkpoints. -/
theorem RawSqlx.belongsTo_apart {first second : RawSqlx.ExecutionIdentity}
    (differ : first.importName ≠ second.importName ∨
      first.sourceDigest ≠ second.sourceDigest ∨
        first.readerMode ≠ second.readerMode)
    (row : RawSqlx.CheckpointRow) (mine : row.belongsTo first = true) :
    row.belongsTo second = false := by
  unfold RawSqlx.CheckpointRow.belongsTo at mine ⊢
  obtain ⟨imports, digest, mode, _⟩ := of_decide_eq_true mine
  apply decide_eq_false
  intro theirs
  obtain ⟨otherImports, otherDigest, otherMode, _⟩ := theirs
  rcases differ with name | content | reader
  · exact name (imports.symm.trans otherImports)
  · exact content (digest.symm.trans otherDigest)
  · exact reader (RawSqlx.asStr_injective (mode.symm.trans otherMode))

theorem RawJdbc.value_injective {first second : RawJdbc.ReaderMode}
    (same : first.value = second.value) : first = second := by
  cases first with
  | cursor =>
      cases second with
      | cursor => rfl
      | paging =>
          exact absurd same (by decide)
  | paging =>
      cases second with
      | cursor =>
          exact absurd same (by decide)
      | paging => rfl

theorem RawJdbc.belongsTo_apart {first second : RawJdbc.RunIdentity}
    (differ : first.importName ≠ second.importName ∨
      first.sourceDigest ≠ second.sourceDigest ∨
        first.readerMode ≠ second.readerMode)
    (row : RawSqlx.CheckpointRow) (mine : RawJdbc.belongsTo row first = true) :
    RawJdbc.belongsTo row second = false := by
  unfold RawJdbc.belongsTo at mine ⊢
  obtain ⟨imports, digest, mode, _⟩ := of_decide_eq_true mine
  apply decide_eq_false
  intro theirs
  obtain ⟨otherImports, otherDigest, otherMode, _⟩ := theirs
  rcases differ with name | content | reader
  · exact name (imports.symm.trans otherImports)
  · exact content (digest.symm.trans otherDigest)
  · exact reader (RawJdbc.value_injective (mode.symm.trans otherMode))

namespace Commit

variable {commit : Commit} {destination after : TargetTables}

theorem apply_rows (applied : commit.apply destination = .ok after) :
    after.projections = destination.projections ++ commit.content.rows ∧
      ∀ row ∈ commit.content.rows, ∀ other ∈ destination.projections,
        RawSqlx.sameKey row other = false := by
  cases commit with
  | rawSqlx transaction =>
      simp only [Commit.apply, bind_eq_ok, pure_eq_ok] at applied
      obtain ⟨written, inner, same⟩ := applied
      obtain ⟨appended, free, _⟩ := RawSqlx.apply_eq_ok inner
      rw [← same]
      exact ⟨appended, free⟩
  | rawJdbc transaction =>
      simp only [Commit.apply, bind_eq_ok, pure_eq_ok] at applied
      obtain ⟨written, inner, same⟩ := applied
      obtain ⟨appended, free, _⟩ := RawJdbc.apply_writes inner
      rw [← same]
      exact ⟨appended, free⟩

/-- The writer of a commit finds its checkpoint afterwards. -/
theorem apply_checkpoint (regular : commit.Regular)
    (applied : commit.apply destination = .ok after) :
    ∃ written, after.checkpointOf commit.importName commit.sourceDigest
        commit.writer = some written ∧ commit.content.Recorded written := by
  cases commit with
  | rawSqlx transaction =>
      simp only [Commit.apply, bind_eq_ok, pure_eq_ok] at applied
      obtain ⟨database, inner, same⟩ := applied
      obtain ⟨row, rows, belongs, recorded⟩ := RawSqlx.apply_writes inner
      rw [RawSqlx.upsertCheckpoint_eq] at rows
      rw [← same]
      simp only [TargetTables.checkpointOf, writer, rows]
      apply find_recorded recorded belongs
      intro other mine
      exact mine
  | rawJdbc transaction =>
      simp only [Commit.apply, bind_eq_ok, pure_eq_ok] at applied
      obtain ⟨database, inner, same⟩ := applied
      obtain ⟨_, _, row, rows, belongs, recorded⟩ :=
        RawJdbc.apply_writes inner
      rw [RawJdbc.upsertCheckpoint_eq] at rows
      have identity : RawJdbc.identityFor transaction.identity.importName
          transaction.identity.sourceDigest transaction.identity.readerMode =
            transaction.identity := by
        have revision : transaction.identity.definitionRevision =
          transaction.identity.readerMode.definitionRevision := regular
        rw [RawJdbc.identityFor, ← revision]
      rw [← same]
      simp only [TargetTables.checkpointOf, writer, importName, sourceDigest,
        identity, rows]
      apply find_recorded recorded belongs
      intro other mine
      exact mine

/-- The other writers, and those of other imports, find the checkpoints that
they had. -/
theorem apply_others (applied : commit.apply destination = .ok after)
    {imports digest : String} {other : Writer}
    (different : imports ≠ commit.importName ∨
      digest ≠ commit.sourceDigest ∨ other ≠ commit.writer) :
    after.checkpointOf imports digest other =
      destination.checkpointOf imports digest other := by
  cases commit with
  | rawSqlx transaction =>
      simp only [Commit.apply, bind_eq_ok, pure_eq_ok] at applied
      obtain ⟨database, inner, same⟩ := applied
      obtain ⟨row, rows, belongs, _⟩ := RawSqlx.apply_writes inner
      rw [RawSqlx.upsertCheckpoint_eq] at rows
      rw [← same]
      cases other with
      | rawJdbc reader => rfl
      | rawSqlx reader =>
          simp only [TargetTables.checkpointOf, rows]
          refine KeyedRows.find_upsert_other ?_ ?_ ?_ _
          · apply RawSqlx.belongsTo_apart
            rcases different with name | content | apart
            · exact Or.inl (Ne.symm name)
            · exact Or.inr (Or.inl (Ne.symm content))
            · refine Or.inr (Or.inr ?_)
              intro equal
              exact apart (congrArg Writer.rawSqlx equal.symm)
          · exact belongs
          · intro _ mine
            exact mine
  | rawJdbc transaction =>
      simp only [Commit.apply, bind_eq_ok, pure_eq_ok] at applied
      obtain ⟨database, inner, same⟩ := applied
      obtain ⟨_, _, row, rows, belongs, _⟩ := RawJdbc.apply_writes inner
      rw [RawJdbc.upsertCheckpoint_eq] at rows
      rw [← same]
      cases other with
      | rawSqlx reader => rfl
      | rawJdbc reader =>
          simp only [TargetTables.checkpointOf, rows]
          refine KeyedRows.find_upsert_other ?_ ?_ ?_ _
          · apply RawJdbc.belongsTo_apart
            rcases different with name | content | apart
            · exact Or.inl (Ne.symm name)
            · exact Or.inr (Or.inl (Ne.symm content))
            · refine Or.inr (Or.inr ?_)
              intro equal
              exact apart (congrArg Writer.rawJdbc equal.symm)
          · exact belongs
          · intro _ mine
            exact mine

end Commit

/-! ### The prefix that is committed -/

section Prefix

variable (platform : Platform) (table : SourceTable) (importName : String)
  (initial : TargetTables)

/-- The rows that an import has in the destination. -/
def TargetTables.imported (destination : TargetTables) : List ProjectedRow :=
  destination.rowsOf importName (compute platform table.rows)

/-- What rows of the source become. -/
def projections (rows : List SourceRow) : List ProjectedRow :=
  rows.map (projectionOf platform importName (compute platform table.rows))

/-- The next commit of a writer that knows a prefix and the number of chunks
that led to it. -/
structure Continues (writer : Writer) (known chunks size : Nat)
    (commit : Commit) : Prop where
  positive : 0 < size
  bounded : known + size ≤ table.rows.length
  regular : commit.Regular
  writer : commit.writer = writer
  imports : commit.importName = importName
  digest : commit.sourceDigest = compute platform table.rows
  rows : commit.content.rows = projections platform table importName
    ((table.rows.drop known).take size)
  last : ((table.rows.drop known).take size).getLast?.map
      (fun row => row.customerId) = some commit.content.lastCustomerId
  committedChunks : commit.content.committedChunks = (chunks + 1 : Nat)
  committedRows : commit.content.committedRows = (known + size : Nat)

/-- The checkpoint of a prefix and of the commits that led to it. -/
structure CheckpointAt (count chunks : Nat) (row : RawSqlx.CheckpointRow) :
    Prop where
  position : (table.rows.take count).getLast?.map
    (fun row => row.customerId) = some row.lastCustomerId
  committedChunks : row.committedChunks.val = chunks
  committedRows : row.committedRows.val = count

/-- The first rows of the source are imported, each once; whoever committed
has the checkpoint of them, and nobody else has one.  Other imports are as they
were. -/
structure Prefixed (shared : Shared TargetTables Commit) : Prop where
  bounded : (shared.store.imported platform table importName).length ≤
    table.rows.length
  rows : shared.store.imported platform table importName =
    projections platform table importName (table.rows.take
      (shared.store.imported platform table importName).length)
  unused : shared.log = [] ↔
    (shared.store.imported platform table importName).length = 0
  counted : shared.log.length ≤
    (shared.store.imported platform table importName).length
  owner : ∀ commit ∈ shared.log, ∃ row,
    shared.store.checkpointOf importName (compute platform table.rows)
        commit.writer = some row ∧
      CheckpointAt table
        (shared.store.imported platform table importName).length
        shared.log.length row
  others : ∀ writer, (∀ commit ∈ shared.log, commit.writer ≠ writer) →
    shared.store.checkpointOf importName (compute platform table.rows)
      writer = none
  apart : ∀ name digest,
    name ≠ importName ∨ digest ≠ compute platform table.rows →
      shared.store.rowsOf name digest = initial.rowsOf name digest ∧
        ∀ writer, shared.store.checkpointOf name digest writer =
          initial.checkpointOf name digest writer

end Prefix

variable {platform : Platform} {table : SourceTable} {importName : String}

theorem TargetTables.Fresh.prefixed {destination : TargetTables}
    (fresh : destination.Fresh importName (compute platform table.rows)) :
    Prefixed platform table importName destination
      { store := destination, log := [] } := by
  have empty : destination.imported platform table importName = [] := fresh.1
  constructor
  · rw [empty]
    exact Nat.zero_le _
  · rw [empty]
    rfl
  · rw [empty]
    exact ⟨fun _ => rfl, fun _ => rfl⟩
  · exact Nat.zero_le _
  · intro commit member
    cases member
  · intro writer _
    exact fresh.2 writer
  · intro name digest _
    exact ⟨rfl, fun _ => rfl⟩

theorem projections_owned (rows : List SourceRow) :
    (projections platform table importName rows).filter (fun row =>
        row.importName = importName ∧
          row.sourceDigest = compute platform table.rows) =
      projections platform table importName rows := by
  apply List.filter_eq_self.mpr
  intro row member
  obtain ⟨source, _, same⟩ := List.mem_map.mp member
  rw [← same]
  exact decide_eq_true ⟨rfl, rfl⟩

theorem projections_apart {name digest : String}
    (different : name ≠ importName ∨ digest ≠ compute platform table.rows)
    (rows : List SourceRow) :
    (projections platform table importName rows).filter (fun row =>
        row.importName = name ∧ row.sourceDigest = digest) = [] := by
  apply List.filter_eq_nil_iff.mpr
  intro row member selected
  obtain ⟨source, _, same⟩ := List.mem_map.mp member
  rw [← same] at selected
  obtain ⟨imports, content⟩ := of_decide_eq_true selected
  rcases different with name | other
  · exact name imports.symm
  · exact other content.symm

variable {initial : TargetTables}
  {shared : Shared TargetTables Commit} {writer : Writer}
  {known chunks size : Nat} {commit : Commit} {after : TargetTables}

/-- A commit behind the end of the prefix is refused: its first row is there
already, whoever wrote it. -/
theorem Continues.current
    (standing : Prefixed platform table importName initial shared)
    (continues : Continues platform table importName writer known chunks size
      commit)
    (behind : known ≤
      (shared.store.imported platform table importName).length)
    (applied : commit.apply shared.store = .ok after) :
    known = (shared.store.imported platform table importName).length := by
  by_contra differ
  have positive := continues.positive
  have bounded := continues.bounded
  have inside : known < table.rows.length := by omega
  let row := projectionOf platform importName (compute platform table.rows)
    table.rows[known]
  have stored : row ∈ shared.store.imported platform table importName := by
    rw [standing.rows]
    apply List.mem_map_of_mem
    apply List.mem_take_iff_getElem.mpr
    exact ⟨known, by omega, rfl⟩
  have added : row ∈ commit.content.rows := by
    rw [continues.rows]
    apply List.mem_map_of_mem
    rw [List.drop_eq_getElem_cons inside]
    cases size with
    | zero => omega
    | succ less => exact List.mem_cons_self
  have taken := (Commit.apply_rows applied).2 row added row
    (List.mem_filter.mp stored).1
  simp [RawSqlx.sameKey] at taken

theorem Continues.imported
    (continues : Continues platform table importName writer known chunks size
      commit)
    (applied : commit.apply shared.store = .ok after) :
    after.imported platform table importName =
      shared.store.imported platform table importName ++
        projections platform table importName
          ((table.rows.drop known).take size) := by
  have appended := (Commit.apply_rows applied).1
  rw [continues.rows] at appended
  unfold TargetTables.imported TargetTables.rowsOf
  rw [appended, List.filter_append, projections_owned]

theorem Continues.commits
    (standing : Prefixed platform table importName initial shared)
    (continues : Continues platform table importName writer
      (shared.store.imported platform table importName).length
      shared.log.length size commit)
    (alone : ∀ earlier ∈ shared.log, earlier.writer = writer)
    (applied : commit.apply shared.store = .ok after) :
    Prefixed platform table importName initial
        { store := after, log := shared.log ++ [commit] } ∧
      (after.imported platform table importName).length =
        (shared.store.imported platform table importName).length + size := by
  have positive := continues.positive
  have bounded := continues.bounded
  have grown := continues.imported applied
  have length : (after.imported platform table importName).length =
      (shared.store.imported platform table importName).length + size := by
    rw [grown, List.length_append, projections, List.length_map,
      List.length_take, List.length_drop]
    omega
  obtain ⟨row, found, recorded⟩ :=
    Commit.apply_checkpoint continues.regular applied
  rw [continues.imports, continues.digest, continues.writer] at found
  have here : CheckpointAt table
      (after.imported platform table importName).length
      (shared.log ++ [commit]).length row := by
    constructor
    · have nonempty : (table.rows.drop
          (shared.store.imported platform table importName).length).take
            size ≠ [] := by
        intro empty
        have last := continues.last
        rw [empty] at last
        cases last
      rw [length, List.take_add, List.getLast?_append_of_ne_nil _ nonempty,
        continues.last, recorded.lastCustomerId]
    · rw [recorded.committedChunks, continues.committedChunks,
        List.length_append, List.length_singleton]
    · rw [recorded.committedRows, continues.committedRows, length]
  refine ⟨?_, length⟩
  constructor
  · dsimp only
    omega
  · dsimp only
    rw [length, List.take_add, projections, List.map_append, ← projections,
      ← projections, ← standing.rows]
    exact grown
  · dsimp only
    constructor
    · intro empty
      cases List.append_eq_nil_iff.mp empty with
      | intro _ single => cases single
    · intro zero
      omega
  · have counted := standing.counted
    dsimp only
    rw [List.length_append, List.length_singleton]
    omega
  · intro earlier member
    have same : earlier.writer = writer := by
      rcases List.mem_append.mp member with before | new
      · exact alone earlier before
      · rw [List.mem_singleton.mp new]
        exact continues.writer
    rw [same]
    exact ⟨row, found, here⟩
  · intro other apart
    have differs : other ≠ commit.writer := by
      intro same
      exact apart commit (List.mem_append_right _ List.mem_cons_self)
        same.symm
    dsimp only
    rw [Commit.apply_others applied (Or.inr (Or.inr differs))]
    apply standing.others
    intro earlier member
    exact apart earlier (List.mem_append_left _ member)
  · intro name digest different
    obtain ⟨rows, checkpoints⟩ := standing.apart name digest different
    have appended := (Commit.apply_rows applied).1
    constructor
    · rw [← rows]
      unfold TargetTables.rowsOf
      dsimp only
      rw [appended, continues.rows, List.filter_append,
        projections_apart different, List.append_nil]
    · intro other
      rw [← checkpoints other]
      apply Commit.apply_others applied
      rw [continues.imports, continues.digest]
      rcases different with name | content
      · exact Or.inl name
      · exact Or.inr (Or.inl content)

end Projection
