/-
The derived work counts are those of the raw sqlx engine.

The float division of two integers is exact under its ceiling as long as the
dividend has no more than 53 digits; beyond that the number of chunks is wrong,
but half of it still lies before the last chunk.
-/

import OxideWorkloads.Benchmark.WorkCounts
import OxideWorkloads.Projection.RawSqlxWork

namespace Benchmark

open Foundation
open Foundation.Checks
open Foundation.Rounding
open Projection
open Projection.RawSqlx

/-! ### Division -/

section Division

variable {rows chunkSize : Nat}

theorem trueDivide_eq (positive : 0 < chunkSize)
    (reached : ceiling binary64 rows chunkSize <
      (2 ^ binary64.limit : Nat)) :
    trueDivide rows chunkSize =
      .ok { mantissa := mantissa binary64 rows chunkSize
            exponent := place binary64 rows chunkSize } := by
  have divisor : (chunkSize : Int) ≠ 0 := by omega
  have sign : (rows : Int).sign * (chunkSize : Int).sign *
      (mantissa binary64 rows chunkSize : Int) =
        mantissa binary64 rows chunkSize := by
    rw [Int.sign_eq_one_of_pos (by omega : (0 : Int) < chunkSize),
      Int.mul_one]
    rcases Nat.eq_zero_or_pos rows with zero | some_
    · have nothing : mantissa binary64 0 chunkSize ≤ 0 := by
        apply nearestEven_le (Nat.mul_pos positive (Nat.two_pow_pos _))
        omega
      rw [zero, Nat.le_zero.mp nothing]
      rfl
    · rw [Int.sign_eq_one_of_pos (by omega), Int.one_mul]
  unfold trueDivide
  rw [if_neg divisor, Int.natAbs_natCast, Int.natAbs_natCast,
    quotient?_eq_some reached]
  dsimp only
  rw [sign]

theorem ceilOfQuotient_eq (positive : 0 < chunkSize)
    (reached : ceiling binary64 rows chunkSize <
      (2 ^ binary64.limit : Nat)) :
    ceilOfQuotient rows chunkSize =
      .ok (ceiling binary64 rows chunkSize) := by
  unfold ceilOfQuotient
  rw [trueDivide_eq positive reached]
  rfl

theorem divisor_reached (small : chunkSize ≤ 2 ^ 64) :
    chunkSize ≤ 2 ^ (-binary64.least).toNat :=
  small.trans (Nat.pow_le_pow_right (by decide) (by decide))

/-- The quotients of the numbers of rows that there can be. -/
theorem ceiling_reached (positive : 0 < chunkSize)
    (small : chunkSize ≤ 2 ^ 64) (countable : rows ≤ 2 ^ 64) :
    ceiling binary64 rows chunkSize < (2 ^ binary64.limit : Nat) := by
  have most := @ceiling_le_twice binary64 rows chunkSize positive
    (divisor_reached small)
  have limit : 2 ^ 66 ≤ 2 ^ binary64.limit :=
    Nat.pow_le_pow_right (by decide) (by decide)
  omega

theorem ceilOfQuotient_exact (positive : 0 < chunkSize)
    (small : chunkSize ≤ 2 ^ 64) (exact : rows ≤ 2 ^ 53) :
    ceilOfQuotient rows chunkSize = .ok (rows ⌈/⌉ chunkSize : Nat) := by
  rw [ceilOfQuotient_eq positive
      (ceiling_reached positive small (exact.trans (by decide))),
    ceiling_exact positive exact (divisor_reached small)]

/-- The chunk that a run is killed in, one more than a position at which a
chunk starts. -/
theorem recoveryKillChunk_eq (positive : 0 < chunkSize)
    (small : chunkSize ≤ 2 ^ 50) (countable : rows ≤ 2 ^ 64)
    (enough : 3 * chunkSize < rows) :
    ∃ position : Nat,
      recoveryKillChunk rows chunkSize = .ok (position + 1) ∧
        1 < position ∧ position * chunkSize < rows := by
  have short : chunkSize ≤ 2 ^ 64 := small.trans (by decide)
  have halves : ∃ chunks : Nat, ceiling binary64 rows chunkSize = chunks ∧
      4 ≤ chunks ∧ chunks / 2 * chunkSize < rows := by
    rcases Nat.lt_or_ge (2 ^ 53) rows with long | exact
    · -- the number of chunks may be wrong, but its leading digit is not
      obtain ⟨exponent, leads, low, high⟩ :=
        leading_of_le positive (by omega : chunkSize ≤ rows)
      have many : 4 ≤ 2 ^ exponent := by
        have product : 2 ^ 50 * 2 ^ 3 < 2 ^ 50 * 2 ^ (exponent + 1) := by
          calc
            2 ^ 50 * 2 ^ 3 < rows := long
            _ < 2 ^ (exponent + 1) * chunkSize := high
            _ ≤ 2 ^ (exponent + 1) * 2 ^ 50 := Nat.mul_le_mul_left _ small
            _ = 2 ^ 50 * 2 ^ (exponent + 1) := Nat.mul_comm _ _
        have power := (Nat.pow_lt_pow_iff_right (by decide)).mp
          (Nat.lt_of_mul_lt_mul_left product)
        have four : 2 ^ 2 ≤ 2 ^ exponent :=
          Nat.pow_le_pow_right (by decide) (by omega)
        omega
      have least := @ceiling_ge binary64 rows chunkSize positive exponent
        leads low
      refine ⟨(ceiling binary64 rows chunkSize).toNat, by omega, by omega, ?_⟩
      rcases Nat.eq_or_lt_of_le low with whole | between
      · have most := @ceiling_le binary64 rows chunkSize positive exponent
          leads 1 (by
            rw [Nat.one_mul]
            exact Nat.le_of_eq whole.symm)
        have half := Nat.mul_lt_mul_of_pos_right
          (by omega : (ceiling binary64 rows chunkSize).toNat / 2 <
            2 ^ exponent) positive
        omega
      · rw [Nat.pow_succ'] at high
        have most := @ceiling_le binary64 rows chunkSize positive exponent
          leads 2 (Nat.le_of_lt high)
        have half := Nat.mul_le_mul_right chunkSize
          (by omega : (ceiling binary64 rows chunkSize).toNat / 2 ≤
            2 ^ exponent)
        omega
    · have chunks := @ceiling_exact binary64 rows chunkSize positive exact
        (divisor_reached short)
      have before : ∀ count, rows ⌈/⌉ chunkSize ≤ count ↔
          rows ≤ chunkSize * count := by
        intro count
        exact ceilDiv_le_iff_le_mul positive
      have four : 4 ≤ rows ⌈/⌉ chunkSize := by
        by_contra fewer
        have covered := (before 3).mp (by omega)
        omega
      refine ⟨rows ⌈/⌉ chunkSize, chunks, four, ?_⟩
      by_contra covered
      rw [Nat.not_lt, Nat.mul_comm] at covered
      have half := (before _).mpr covered
      omega
  obtain ⟨chunks, same, four, half⟩ := halves
  refine ⟨chunks / 2, ?_, by omega, half⟩
  unfold recoveryKillChunk
  rw [ceilOfQuotient_eq positive (ceiling_reached positive short countable),
    same]
  simp only [bind_eq_ok, ensure_eq_ok, pure_eq_ok, exists_const]
  exact ⟨_, rfl, by omega, by omega⟩

end Division

/-! ### The metrics of a run -/

section Metrics

variable {chunkSize : Nat}

/-- One statement for each batch of each chunk. -/
theorem statementLoop_eq (positive : 0 < chunkSize)
    (small : chunkSize ≤ 2 ^ 53) (projected : List ProjectedRow)
    (statements : Int) :
    statementLoop chunkSize positive statements projected.length =
      .ok (statements +
        batchCount (Chunks.chunks chunkSize projected)) := by
  induction length : projected.length using Nat.strongRecOn
    generalizing projected statements
  rename_i bound ih
  rw [statementLoop]
  by_cases empty : projected = []
  · rw [empty, List.length_nil] at length
    rw [dif_pos length.symm, empty, Chunks.chunks_nil]
    change Except.ok statements = Except.ok (statements + 0)
    rw [Int.add_zero]
  · have some_ := List.length_pos_iff.mpr empty
    have chunk : (projected.take chunkSize).length = min chunkSize bound := by
      rw [List.length_take, length]
    have ceil := @ceilOfQuotient_exact (min chunkSize bound)
      Benchmark.rowsPerStatement (by decide) (by decide) (by omega)
    have tail := ih (bound - min chunkSize bound) (by omega)
      (projected.drop chunkSize)
      (statements + (min chunkSize bound ⌈/⌉ Benchmark.rowsPerStatement :
        Nat)) (by
          rw [List.length_drop, length]
          omega)
    have head : batchCount (Chunks.chunks chunkSize projected) =
        min chunkSize bound ⌈/⌉ Benchmark.rowsPerStatement +
          batchCount (Chunks.chunks chunkSize
            (projected.drop chunkSize)) := by
      have batches := Chunks.chunks_length
        (by decide : 0 < Benchmark.rowsPerStatement)
        (projected.take chunkSize)
      rw [Chunks.chunks_step positive empty, ← chunk, ← batches]
      rfl
    rw [dif_neg (by omega)]
    simp only [bind_eq_ok]
    refine ⟨_, ceil, ?_⟩
    rw [tail, head]
    push_cast
    rw [Int.add_assoc]

theorem writerMetrics_eq (positive : 0 < chunkSize)
    (small : chunkSize ≤ 2 ^ 53) (projected : List ProjectedRow)
    (countable : projected.length ≤ 2 ^ 64) :
    writerMetrics projected.length chunkSize =
      .ok {
        committedRows := projected.length
        committedChunks := ceiling binary64 projected.length chunkSize
        writerStatements := batchCount (Chunks.chunks chunkSize projected)
        boundParametersTotal :=
          (projected.length * Benchmark.columnsPerRow : Nat)
        maxParametersPerStatement := Benchmark.maxParametersPerStatement
        rowsPerFullStatement := Benchmark.rowsPerStatement
        maxBoundParametersPerFullStatement :=
          Benchmark.maxBoundParameters } := by
  have valid : ¬ ((projected.length : Int) < 0 ∨ (chunkSize : Int) ≤ 0) := by
    omega
  have chunks : committedChunksOf projected.length chunkSize =
      .ok (ceiling binary64 projected.length chunkSize) := by
    unfold committedChunksOf
    by_cases none_ : (projected.length : Int) = 0
    · have zero : projected.length = 0 := by omega
      rw [if_neg (fun some_ => some_ none_), zero, ceiling_zero positive]
    · rw [if_pos none_, ceilOfQuotient_eq positive
        (ceiling_reached positive (small.trans (by decide)) countable)]
  have loop := statementLoop_eq positive small projected 0
  rw [Int.zero_add] at loop
  unfold writerMetrics
  rw [dif_pos valid]
  simp only [bind_eq_ok, pure_eq_ok]
  refine ⟨_, loop, _, chunks, ?_⟩
  push_cast
  rfl

/-- The metrics say what some transactions write. -/
structure WriterMetrics.Describes (metrics : WriterMetrics)
    (transactions : List ChunkTransaction) : Prop where
  rows : metrics.committedRows = writtenRows transactions
  statements : metrics.writerStatements = statementCount transactions
  parameters : metrics.boundParametersTotal = parameterCount transactions

theorem writerMetrics_describes (positive : 0 < chunkSize)
    (small : chunkSize ≤ 2 ^ 53) (projected : List ProjectedRow)
    (countable : projected.length ≤ 2 ^ 64) (identity : ExecutionIdentity)
    (state : RunState) :
    ∃ metrics, writerMetrics projected.length chunkSize = .ok metrics ∧
      metrics.Describes (schedule identity state
        (Chunks.chunks chunkSize projected)) ∧
      metrics.committedChunks =
        ceiling binary64 projected.length chunkSize := by
  have written : writtenRows (schedule identity state
      (Chunks.chunks chunkSize projected)) = projected.length := by
    rw [schedule_writtenRows, (Chunks.chunks_splits positive projected).whole]
  refine ⟨_, writerMetrics_eq positive small projected countable, ?_, rfl⟩
  constructor
  · rw [written]
  · rw [schedule_statementCount]
  · rw [parameterCount_eq, written]
    rfl

end Metrics

/-! ### A killed run and the one after it -/

section Recovery

variable {chunkSize : Nat}

/-- The values of a sample: the run is killed in the chunk behind a position,
inside the rows. -/
theorem recoverySample_eq (positive : 0 < chunkSize)
    (small : chunkSize ≤ 2 ^ 50) (projected : List ProjectedRow)
    (countable : projected.length ≤ 2 ^ 64)
    (enough : 3 * chunkSize < projected.length) :
    ∃ (position : Nat) (sample : RecoverySample),
      recoverySample projected.length chunkSize = .ok sample ∧
        sample.killChunk = (position + 1 : Nat) ∧ 1 < position ∧
        position * chunkSize < projected.length ∧
        sample.expectedDurableRows = (position * chunkSize : Nat) ∧
        sample.reprocessedRows =
          (min chunkSize (projected.length - position * chunkSize) : Nat) ∧
        writerMetrics
            (projected.take ((position + 1) * chunkSize)).length chunkSize =
          .ok sample.derivedWork.firstPhaseAttempted ∧
        writerMetrics (projected.drop (position * chunkSize)).length
            chunkSize = .ok sample.derivedWork.recoveryPhase ∧
        sample.derivedWork.combinedWriterStatements =
          sample.derivedWork.firstPhaseAttempted.writerStatements +
            sample.derivedWork.recoveryPhase.writerStatements ∧
        sample.derivedWork.combinedBoundParameters =
          (projected.length + sample.reprocessedRows) *
            Benchmark.columnsPerRow := by
  obtain ⟨position, killChunk, notFirst, inside⟩ :=
    recoveryKillChunk_eq positive small countable enough
  have short : chunkSize ≤ 2 ^ 53 := small.trans (by decide)
  have durable : min (projected.length : Int)
      (((position : Int) + 1 - 1) * chunkSize) =
        (position * chunkSize : Nat) := by
    rw [add_sub_cancel_right, ← Nat.cast_mul]
    omega
  have attempted : min (projected.length : Int)
      (((position : Int) + 1) * chunkSize) =
        (projected.take ((position + 1) * chunkSize)).length := by
    rw [List.length_take, ← Nat.cast_succ, ← Nat.cast_mul, Nat.cast_min,
      min_comm]
  have left : (projected.length : Int) - (position * chunkSize : Nat) =
      (projected.drop (position * chunkSize)).length := by
    rw [List.length_drop]
    omega
  have crash := writerMetrics_eq positive short
    (projected.take ((position + 1) * chunkSize)) (by
      rw [List.length_take]
      omega)
  have resume := writerMetrics_eq positive short
    (projected.drop (position * chunkSize)) (by
      rw [List.length_drop]
      omega)
  have fraction := @trueDivide_eq (position * chunkSize) projected.length
    (by omega) (ceiling_reached (by omega) countable (by omega))
  generalize WriterMetrics.mk _ _ _ _ _ _ _ = crashWork at crash
  generalize WriterMetrics.mk _ _ _ _ _ _ _ = resumeWork at resume
  have computed : recoverySample projected.length chunkSize =
      .ok {
        killChunk := position + 1
        expectedDurableRows := (position * chunkSize : Nat)
        targetProgressFraction :=
          { mantissa := mantissa binary64 (position * chunkSize)
              projected.length
            exponent := place binary64 (position * chunkSize)
              projected.length }
        reprocessedRows := min (chunkSize : Int)
          (projected.drop (position * chunkSize)).length
        derivedWork := {
          firstPhaseAttempted := crashWork
          recoveryPhase := resumeWork
          combinedWriterStatements :=
            crashWork.writerStatements + resumeWork.writerStatements
          combinedBoundParameters := (projected.length +
            min (chunkSize : Int)
              (projected.drop (position * chunkSize)).length) *
                Benchmark.columnsPerRow } } := by
    unfold recoverySample
    rw [killChunk]
    simp only [ok_bind, durable, attempted, left, crash, resume, fraction]
    rfl
  refine ⟨position, _, computed, rfl, notFirst, inside, rfl, ?_, crash,
    resume, rfl, rfl⟩
  dsimp only
  rw [List.length_drop]
  omega

end Recovery

/-! ### Runs -/

/-- There are no more rows than ids. -/
theorem rows_countable (table : SourceTable) :
    table.rows.length ≤ 2 ^ 64 := by
  have distinct : (table.rows.map (fun row =>
      row.customerId.toBitVec.toFin)).Nodup := by
    apply List.pairwise_map.mpr
    apply table.ascending.imp
    intro earlier later before same
    have ids := Int64.toBitVec_inj.mp (BitVec.toFin_inj.mp same)
    rw [ids] at before
    exact Int64.lt_irrefl before
  have bound := distinct.length_le_card
  rw [List.length_map, Fintype.card_fin] at bound
  exact bound

section Runs

variable {platform : Platform} {table : SourceTable} {args : RunArgs}
  {config : RunConfig} {database : Database} {projected : List ProjectedRow}

theorem chunkSize_bounds {checkpoint : Option Int64 × Nat × Nat}
    (begins : Begins platform table args database config checkpoint) :
    0 < args.chunkSize ∧ args.chunkSize ≤ 2 ^ 50 := by
  have valid := begins.valid
  unfold validateRunArgs at valid
  simp only [bind_eq_ok, ensure_eq_ok, pure_eq_ok, exists_const] at valid
  obtain ⟨_, size, _⟩ := valid
  have most : maxChunkSize ≤ 2 ^ 50 := by decide
  omega

/-- The transactions of a killed run, with the one it was killed in. -/
theorem attempted_eq {chunkSize : Nat} (positive : 0 < chunkSize)
    {identity : ExecutionIdentity} {state : RunState} {position : Nat}
    (last : position < (Chunks.chunks chunkSize projected).length) :
    schedule identity state
          ((Chunks.chunks chunkSize projected).take position) ++
        [transactionOf identity
          (((Chunks.chunks chunkSize projected).take position).foldl
            stateAfter state) (Chunks.chunks chunkSize projected)[position]] =
      schedule identity state
        (Chunks.chunks chunkSize
          (projected.take ((position + 1) * chunkSize))) := by
  rw [Chunks.chunks_take positive, ← List.take_append_getElem last,
    schedule_append]
  rfl

/-- For every number of rows and chunk size that the engine runs with: an
uninterrupted run writes what the metrics say, in as many chunks if the number
of rows has at most 53 digits; and with at least four chunks, so do a run that
is killed before the commit of the chosen chunk and the run after it. -/
theorem recoverySample_exact
    (begins : Begins platform table args database config (none, 0, 0))
    (quiet : config.Uninterrupted)
    (fresh : database.Fresh (identityOf platform table args))
    (accepted : projectAll platform (identityOf platform table args)
      table.rows = .ok projected) :
    (∃ transactions state metrics,
      (run platform table args).answered database =
          Session.submitAll transactions (.done state) ∧
        writerMetrics table.rows.length args.chunkSize = .ok metrics ∧
        metrics.Describes transactions ∧
        (table.rows.length ≤ 2 ^ 53 →
          metrics.committedChunks = transactions.length)) ∧
      (3 * args.chunkSize < table.rows.length →
        ∃ (sample : RecoverySample) (killChunk : Nat),
          recoverySample table.rows.length args.chunkSize = .ok sample ∧
            sample.killChunk = killChunk ∧
            0 < sample.expectedDurableRows ∧
            sample.expectedDurableRows < table.rows.length ∧
            ∀ marker, marker ≠ "" →
              ∃ committed written,
                (run platform table
                    (args.killedAt killChunk marker)).answered database =
                  Session.submitAll committed (pausedIn written) ∧
                committed.length + 1 = killChunk ∧
                ∀ killed, committed.foldlM
                    (fun database transaction => transaction.apply database)
                    database = .ok killed →
                  (killed.rowsOf (identityOf platform table args)).length =
                      sample.expectedDurableRows ∧
                    ∃ resumed state,
                      (run platform table args).answered killed =
                        Session.submitAll resumed (.done state) ∧
                      writtenRows (committed ++ [written]) +
                          writtenRows resumed =
                        table.rows.length + sample.reprocessedRows ∧
                      sample.derivedWork.combinedWriterStatements =
                        statementCount (committed ++ [written]) +
                          statementCount resumed ∧
                      sample.derivedWork.combinedBoundParameters =
                        parameterCount (committed ++ [written]) +
                          parameterCount resumed) := by
  obtain ⟨positive, small⟩ := chunkSize_bounds begins
  have short : args.chunkSize ≤ 2 ^ 53 := small.trans (by decide)
  have pairs := (mapM_eq_ok.mp accepted).length_eq
  have countable := rows_countable table
  rw [pairs] at countable ⊢
  constructor
  · obtain ⟨metrics, computed, describes, chunks⟩ :=
      writerMetrics_describes positive short projected countable
        (identityOf platform table args) (RunState.new (none, 0, 0))
    refine ⟨_, _, metrics, run_accepted begins quiet accepted, computed,
      describes, ?_⟩
    intro exact
    rw [chunks, schedule_length, Chunks.chunks_length positive,
      ceiling_exact positive exact
        (divisor_reached (short.trans (by decide)))]
  · intro enough
    obtain ⟨position, sample, computed, killChunk, notFirst, inside, durable,
      reprocessed, crash, resume, statements, parameters⟩ :=
        recoverySample_eq positive small projected countable enough
    refine ⟨sample, position + 1, computed, killChunk, ?_, ?_, ?_⟩
    · have more := Nat.mul_pos (by omega : 0 < position) positive
      omega
    · omega
    intro marker named
    have last : position < (Chunks.chunks args.chunkSize
        projected).length := by
      rw [Chunks.chunks_length positive]
      by_contra beyond
      have covered := (ceilDiv_le_iff_le_mul positive).mp
        (Nat.le_of_not_lt beyond)
      rw [Nat.mul_comm] at covered
      omega
    have found := List.getElem?_eq_getElem last
    have killed : (run platform table
        (args.killedAt (position + 1) marker)).answered database =
          Session.submitAll
            (schedule (identityOf platform table args)
              (RunState.new (none, 0, 0))
              ((Chunks.chunks args.chunkSize projected).take position))
            (pausedIn (transactionOf (identityOf platform table args)
              (((Chunks.chunks args.chunkSize projected).take
                position).foldl stateAfter (RunState.new (none, 0, 0)))
              (Chunks.chunks args.chunkSize projected)[position])) :=
      @run_killed platform table _ _ database (none, 0, 0)
        (begins.killedAt quiet (Nat.succ_pos position) named) position
        ⟨quiet.1, marker, by rw [Nat.zero_add]⟩ (by omega) projected accepted
        _ (List.getElem?_eq_getElem last)
    refine ⟨_, _, killed, ?_, ?_⟩
    · rw [schedule_length, List.length_take]
      omega
    intro after committed
    obtain ⟨stored, loaded, state, resumes⟩ :=
      run_resumed begins quiet fresh accepted committed
    rw [attempted_eq positive last]
    obtain ⟨_, crashComputed, crashed, _⟩ := writerMetrics_describes positive
      short (projected.take ((position + 1) * args.chunkSize)) (by
        rw [List.length_take]
        omega) (identityOf platform table args) (RunState.new (none, 0, 0))
    obtain ⟨_, resumeComputed, resumed, _⟩ := writerMetrics_describes positive
      short (projected.drop (position * args.chunkSize)) (by
        rw [List.length_drop]
        omega) (identityOf platform table args) loaded
    rw [Chunks.chunks_drop positive] at resumed
    rw [crash, Except.ok.injEq] at crashComputed
    rw [resume, Except.ok.injEq] at resumeComputed
    rw [← crashComputed] at crashed
    rw [← resumeComputed] at resumed
    have total : writtenRows (schedule (identityOf platform table args)
        (RunState.new (none, 0, 0)) (Chunks.chunks args.chunkSize
          (projected.take ((position + 1) * args.chunkSize)))) +
        writtenRows (schedule (identityOf platform table args) loaded
          ((Chunks.chunks args.chunkSize projected).drop position)) =
        projected.length +
          min args.chunkSize (projected.length - position * args.chunkSize) := by
      rw [schedule_writtenRows, schedule_writtenRows,
        ← Chunks.chunks_drop positive, (Chunks.chunks_splits positive _).whole,
        (Chunks.chunks_splits positive _).whole, List.length_take,
        List.length_drop, Nat.succ_mul]
      omega
    refine ⟨?_, _, state, resumes, ?_, ?_, ?_⟩
    · rw [stored, durable]
      omega
    · rw [reprocessed, ← Nat.cast_add, ← Nat.cast_add, total]
    · rw [statements, crashed.statements, resumed.statements]
    · rw [parameters, reprocessed, parameterCount_eq, parameterCount_eq,
        ← Nat.cast_add, ← Nat.cast_add, ← Nat.add_mul, total]
      rfl

end Runs

/-! ### Tables of many rows -/

/-- Rows with the ids from 1 on. -/
def numberedTable (count : Nat) (small : count < 2 ^ 62) : SourceTable :=
  { rows := (List.range count).map (fun index =>
      { customerId := Int64.ofNat (index + 1)
        fullName := "Ada"
        isActive := true
        balanceCents := 0 })
    ascending := by
      apply List.pairwise_map.mpr
      apply List.Pairwise.imp_of_mem _ List.pairwise_lt_range
      intro earlier later _ member before
      have inside := List.mem_range.mp member
      rw [Int64.lt_iff_toInt_lt, Int64.toInt_ofNat_of_lt (by omega),
        Int64.toInt_ofNat_of_lt (by omega)]
      omega
    zeroFree := by
      intro row member
      obtain ⟨index, _, same⟩ := List.mem_map.mp member
      rw [← same]
      change 0 ∉ Json.utf8 "Ada"
      decide }

theorem numberedTable_length (count : Nat) (small : count < 2 ^ 62) :
    (numberedTable count small).rows.length = count := by
  unfold numberedTable
  rw [List.length_map, List.length_range]

theorem numberedTable_accepted (count : Nat) (small : count < 2 ^ 62)
    (identity : ExecutionIdentity) :
    ∃ projected, projectAll asciiPlatform identity
      (numberedTable count small).rows = .ok projected := by
  rcases @accepted_or_rejected asciiPlatform identity
    (numberedTable count small).rows with accepted | rejected
  · exact accepted
  · obtain ⟨before, row, rest, _, error, split, _, failure⟩ := rejected
    have member : row ∈ (numberedTable count small).rows := by
      rw [split]
      exact List.mem_append_right _ List.mem_cons_self
    obtain ⟨index, _, same⟩ := List.mem_map.mp member
    have named : Text.trim row.fullName ≠ "" := by
      rw [← same]
      change Text.trim "Ada" ≠ ""
      decide
    unfold project at failure
    rw [ensure, if_pos named] at failure
    cases failure

theorem numberedTable_begins (count : Nat) (small : count < 2 ^ 62) :
    Begins asciiPlatform (numberedTable count small) oneByOne Database.empty
      ⟨.cursor, 1, 500, none, none⟩ (none, 0, 0) :=
  ⟨by decide, rfl, rfl⟩

/-- Four rows in chunks of one. -/
theorem recoverySample_exact_four :
    ∃ transactions state metrics sample,
      (run asciiPlatform (numberedTable 4 (by decide)) oneByOne).answered
          Database.empty = Session.submitAll transactions (.done state) ∧
        writerMetrics 4 1 = .ok metrics ∧ metrics.Describes transactions ∧
        metrics.committedChunks = transactions.length ∧
        recoverySample 4 1 = .ok sample ∧
        0 < sample.expectedDurableRows ∧ sample.expectedDurableRows < 4 := by
  obtain ⟨projected, accepted⟩ := numberedTable_accepted 4 (by decide)
    (identityOf asciiPlatform (numberedTable 4 (by decide)) oneByOne)
  obtain ⟨whole, killed⟩ := recoverySample_exact
    (numberedTable_begins 4 (by decide)) ⟨rfl, rfl⟩ ⟨rfl, rfl⟩ accepted
  rw [numberedTable_length] at whole killed
  obtain ⟨transactions, state, metrics, answered, computed, describes,
    chunks⟩ := whole
  obtain ⟨sample, _, sampled, _, some_, less, _⟩ := killed (by decide)
  exact ⟨transactions, state, metrics, sample, answered, computed, describes,
    chunks (by decide), sampled, some_, less⟩

/-- One row more than a float can count: a chunk is missing. -/
theorem committedChunks_long :
    ∃ table transactions state metrics,
      table.rows.length = 2 ^ 53 + 1 ∧
        (run asciiPlatform table oneByOne).answered Database.empty =
          Session.submitAll transactions (.done state) ∧
        transactions.length = 2 ^ 53 + 1 ∧
        writerMetrics (2 ^ 53 + 1) 1 = .ok metrics ∧
        metrics.committedChunks = 2 ^ 53 := by
  have small : 2 ^ 53 + 1 < 2 ^ 62 := by decide
  have begins := numberedTable_begins (2 ^ 53 + 1) small
  obtain ⟨projected, accepted⟩ := numberedTable_accepted (2 ^ 53 + 1) small
    (identityOf asciiPlatform (numberedTable (2 ^ 53 + 1) small) oneByOne)
  have pairs := (mapM_eq_ok.mp accepted).length_eq
  rw [numberedTable_length] at pairs
  obtain ⟨metrics, computed, _, chunks⟩ := writerMetrics_describes
    (by decide : 0 < 1) (by decide) projected (by omega)
    (identityOf asciiPlatform (numberedTable (2 ^ 53 + 1) small) oneByOne)
    (RunState.new (none, 0, 0))
  rw [← pairs] at computed chunks
  have rounded : ceiling binary64 (2 ^ 53 + 1) 1 = 2 ^ 53 := by
    decide +kernel
  refine ⟨_, _, _, metrics, numberedTable_length _ small,
    run_accepted begins ⟨rfl, rfl⟩ accepted, ?_, computed,
    chunks.trans rounded⟩
  rw [schedule_length]
  change (Chunks.chunks 1 projected).length = _
  rw [Chunks.chunks_length (by decide), ← pairs, ceilDiv_one]

end Benchmark
