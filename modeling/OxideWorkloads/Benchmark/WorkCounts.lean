/-
The work counts that the paired benchmark derives from a number of rows and a
chunk size.

Python divides integers with `/` into a float, rounded once, before
`math.ceil`.  What a recovery sample measures is left out: it keeps what it
derives from its arguments.
-/

import OxideWorkloads.Foundation.Checks
import OxideWorkloads.Foundation.Rounding

namespace Benchmark

open Foundation
open Foundation.Checks
open Foundation.Rounding

def columnsPerRow : Nat := 7
def maxParametersPerStatement : Nat := 2000
def rowsPerStatement : Nat := maxParametersPerStatement / columnsPerRow
def maxBoundParameters : Nat := rowsPerStatement * columnsPerRow

/-! ### Division -/

/-- `num / den` of two integers. -/
def trueDivide (num den : Int) : Except String Scaled :=
  if den = 0 then .error "division by zero"
  else
    match quotient? binary64 num.natAbs den.natAbs with
    | none => .error "integer division result too large for a float"
    | some magnitude =>
        .ok { mantissa := num.sign * den.sign * magnitude.mantissa
              exponent := magnitude.exponent }

/-- `math.ceil(num / den)`. -/
def ceilOfQuotient (num den : Int) : Except String Int := do
  let quotient ← trueDivide num den
  return quotient.ceil

/-! ### One run -/

structure WriterMetrics where
  committedRows : Int
  committedChunks : Int
  writerStatements : Int
  boundParametersTotal : Int
  maxParametersPerStatement : Nat
  rowsPerFullStatement : Nat
  maxBoundParametersPerFullStatement : Nat
  deriving DecidableEq

/-- The loop of `writer_metrics`. -/
def statementLoop (chunkSize : Nat) (positive : 0 < chunkSize)
    (statements : Int) (remaining : Nat) : Except String Int :=
  if _more : remaining = 0 then .ok statements
  else do
    let chunkRows := min chunkSize remaining
    let ceil ← ceilOfQuotient chunkRows rowsPerStatement
    statementLoop chunkSize positive (statements + ceil)
      (remaining - chunkRows)
termination_by remaining
decreasing_by omega

/-- `math.ceil(rows / chunk_size) if rows else 0`. -/
def committedChunksOf (rows chunkSize : Int) : Except String Int :=
  if rows ≠ 0 then ceilOfQuotient rows chunkSize else .ok 0

def writerMetrics (rows chunkSize : Int) : Except String WriterMetrics :=
  if valid : ¬ (rows < 0 ∨ chunkSize ≤ 0) then do
    let statements ← statementLoop chunkSize.toNat (by omega) 0 rows.toNat
    let committedChunks ← committedChunksOf rows chunkSize
    return {
      committedRows := rows
      committedChunks
      writerStatements := statements
      boundParametersTotal := rows * columnsPerRow
      maxParametersPerStatement
      rowsPerFullStatement := rowsPerStatement
      maxBoundParametersPerFullStatement := maxBoundParameters }
  else .error "invalid writer metric input"

/-! ### A killed run and the one after it -/

def recoveryKillChunk (rows chunkSize : Int) : Except String Int := do
  let chunks ← ceilOfQuotient rows chunkSize
  ensure (¬ chunks < 4) "recovery benchmark requires at least four chunks"
  return chunks / 2 + 1

structure DerivedWork where
  firstPhaseAttempted : WriterMetrics
  recoveryPhase : WriterMetrics
  combinedWriterStatements : Int
  combinedBoundParameters : Int
  deriving DecidableEq

structure RecoverySample where
  killChunk : Int
  expectedDurableRows : Int
  targetProgressFraction : Scaled
  reprocessedRows : Int
  derivedWork : DerivedWork
  deriving DecidableEq

def recoverySample (rows chunkSize : Int) : Except String RecoverySample := do
  let killChunk ← recoveryKillChunk rows chunkSize
  let expectedDurableRows := min rows ((killChunk - 1) * chunkSize)
  let reprocessedRows := min chunkSize (rows - expectedDurableRows)
  let crashAttemptRows := min rows (killChunk * chunkSize)
  let crashWork ← writerMetrics crashAttemptRows chunkSize
  let resumeWork ← writerMetrics (rows - expectedDurableRows) chunkSize
  let targetProgressFraction ← trueDivide expectedDurableRows rows
  return {
    killChunk
    expectedDurableRows
    targetProgressFraction
    reprocessedRows
    derivedWork := {
      firstPhaseAttempted := crashWork
      recoveryPhase := resumeWork
      combinedWriterStatements :=
        crashWork.writerStatements + resumeWork.writerStatements
      combinedBoundParameters := (rows + reprocessedRows) * columnsPerRow } }

end Benchmark
