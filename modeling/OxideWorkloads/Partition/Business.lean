/-
The business data of the local-partition workload: the source table, the
destination rows of every run, the write of one partition and the independent
verification of a run.

Both tables are keyed by the source id, and every query that reads them row by
row orders by it, so a table is the map of its rows.
-/

import OxideWorkloads.Foundation.DecimalOrder
import OxideWorkloads.Foundation.Separated
import OxideWorkloads.Foundation.Upsert
import OxideWorkloads.Partition.PlanExact
import OxideWorkloads.Projection.SourceContent

namespace Partition

open Foundation
open Foundation.Checks
open Foundation.LineLog (Bytes)
open Foundation.Json (utf8)
open Projection (hexDigest)

/-- The payload value of every source id. -/
abbrev SourceTable := OrderedMap Bigint Bigint

structure ProjectedRow where
  projectedValue : Bigint
  partitionKey : String
  deriving DecidableEq

/-- The projected rows of a run, by source id. -/
abbrev RunRows := OrderedMap Bigint ProjectedRow

/-- The destination table; its key is the run name with the source id. -/
abbrev Destination := String → RunRows

/-- `payload_value * 3 + 7` in 64-bit arithmetic that reports overflow. -/
def projectValue (payloadValue : Bigint) : Option Bigint :=
  (Word.toBigint? (payloadValue.val * 3)).bind
    (fun tripled => Word.toBigint? (tripled.val + 7))

/-! ### The write of a partition -/

/-- The rows that the `SELECT` of the upsert yields; an overflow aborts the
statement. -/
def selectRange (source : SourceTable) (start stop : Bigint)
    (key : String) : Except String (List (Bigint × ProjectedRow)) :=
  let between := source.entries.filter
    (fun row => start.val ≤ row.1.val ∧ row.1.val ≤ stop.val)
  between.mapM (fun row => do
    let projectedValue ← require (projectValue row.2) "bigint out of range"
    return (row.1, { projectedValue, partitionKey := key }))

/-- The atomic upsert of a range: the number of rows it affected, and the
destination after it. -/
def upsertRange (source : SourceTable) (runName key : String)
    (start stop : Bigint) (destination : Destination) :
    Except String (Nat × Destination) := do
  let rows ← selectRange source start stop key
  return (rows.length, fun name =>
    if name = runName then (destination name).insertAll rows
    else destination name)

inductive TaskletOutcome where
  | completed
  | stopped
  deriving DecidableEq

/-- The worker after it was admitted.  `stopped` says that a hold before the
write ended with a stop request. -/
def PartitionWorker.business (worker : PartitionWorker) (stopped : Bool)
    (source : SourceTable) (destination : Destination) :
    Except String TaskletOutcome × Destination :=
  match worker.checkAssignment with
  | .error error => (.error error, destination)
  | .ok payload =>
      if stopped then (.ok .stopped, destination)
      else
        match Word.toBigint? payload.rangeStart.toNat,
          Word.toBigint? payload.rangeEnd.toNat with
        | none, _ =>
            (.error "partition range start exceeded PostgreSQL bigint",
              destination)
        | some _, none =>
            (.error "partition range end exceeded PostgreSQL bigint",
              destination)
        | some start, some stop =>
            match upsertRange source worker.runName worker.key start stop
              destination with
            | .error error => (.error error, destination)
            | .ok (affected, written) =>
                let expectedRows :=
                  (payload.rangeEnd - payload.rangeStart + 1).toNat
                if affected = expectedRows then (.ok .completed, written)
                else
                  (.error (s!"partition {worker.key} affected {affected} " ++
                    s!"rows, expected {expectedRows}"), written)

/-- A small id or value. -/
def small (value : UInt8) : Bigint :=
  ⟨value.toNat, by
    have limit := value.toNat_lt
    unfold i64Min i64Max
    omega⟩

/-- Four rows, with the ids 1, 2, 5 and 6. -/
def strayedSource : SourceTable :=
  { entries := [(small 1, small 10), (small 2, small 20), (small 5, small 50),
      (small 6, small 60)]
    sorted := by decide }

/-- A worker accepts the entry beyond the plan and completes it; no planned
entry is like it, and the recovery tool refuses it. -/
theorem stray_accepted :
    validateShape 4 2 1 = .ok 2 ∧ strayedSource.entries.length = 4 ∧
      (workerOf "run" "digest" 2 strayEntry).checkAssignment =
        .ok strayEntry.context ∧
      ((workerOf "run" "digest" 2 strayEntry).business false strayedSource
        (fun _ => OrderedMap.empty)).1 = .ok .completed ∧
      Recoveryctl.recoverEntry 4 2 "digest" strayEntry ≠ .ok () ∧
      ∀ plan, assignments 4 2 = .ok plan → ¬ Planned plan strayEntry := by
  have shape := (validateShape_eq_ok.mp
    (by decide : validateShape 4 2 1 = .ok 2)).1
  have complete : Complete 2 strayEntry := ⟨by decide, by decide, by decide⟩
  refine ⟨by decide, by decide +kernel, ?_, by decide +kernel, ?_, ?_⟩
  · exact (checkAssignment_eq_ok (by decide)).mpr ⟨rfl, complete, rfl⟩
  · intro accepted
    exact absurd ((recoverEntry_eq_ok shape).mp accepted).1 (by decide)
  · intro plan built planned
    have isPlan := (assignments_eq_ok shape).mp built
    exact absurd ((isPlan.planned_iff _).mp planned).1 (by decide)

/-! ### Identities -/

/-- A row as the identities hash it. -/
def renderRow (row : Bigint × ProjectedRow) : String :=
  Text.signed row.1.val ++ "|" ++ Text.signed row.2.projectedValue.val ++
    "|" ++ row.2.partitionKey ++ "\n"

/-- The bytes that an identity feeds to the hash. -/
def rowContent (rows : List (Bigint × ProjectedRow)) : Bytes :=
  utf8 (String.ofList (rows.flatMap (fun row => (renderRow row).toList)))

def finishDigest (sha256 : Bytes → Vector UInt8 32) (bytes : Bytes) :
    String :=
  hexDigest (sha256 bytes).toList

/-- The destination row that a source row should have. -/
def expectedRow (rowsPerPartition : UInt64) (row : Bigint × Bigint) :
    Except String (Bigint × ProjectedRow) := do
  let partitionIndex ← ownerIndex rowsPerPartition row.1
  let projectedValue ← require (projectValue row.2)
    "projected value overflowed"
  return (row.1,
    { projectedValue, partitionKey := partitionKey partitionIndex })

def expectedRows (source : SourceTable) (rowsPerPartition : UInt64) :
    Except String (List (Bigint × ProjectedRow)) :=
  source.entries.mapM (expectedRow rowsPerPartition)

section

variable (sha256 : Bytes → Vector UInt8 32)

def sourceIdentity (source : SourceTable) : Nat × String :=
  (source.entries.length,
    finishDigest sha256 (utf8 (String.ofList (source.entries.flatMap
      (fun row => (Text.signed row.1.val ++ "|" ++
        Text.signed row.2.val ++ "\n").toList)))))

def expectedDestinationIdentity (source : SourceTable)
    (rowsPerPartition : UInt64) : Except String (Nat × String) := do
  let rows ← expectedRows source rowsPerPartition
  return (rows.length, finishDigest sha256 (rowContent rows))

def destinationIdentity (rows : RunRows) : Nat × String :=
  (rows.entries.length, finishDigest sha256 (rowContent rows.entries))

end

/-! ### Verification -/

structure BusinessVerification where
  sourceRows : Nat
  destinationRows : Nat
  distinctDestinationIds : Nat
  missingSourceIds : Nat
  extraDestinationIds : Nat
  sourceDigest : String
  expectedDestinationDigest : String
  actualDestinationDigest : String
  rangeOwnershipComplete : Bool

def BusinessVerification.passed (verification : BusinessVerification)
    (expectedRows : UInt64) : Bool :=
  decide (verification.sourceRows = expectedRows.toNat) &&
    decide (verification.destinationRows = expectedRows.toNat) &&
    decide (verification.distinctDestinationIds = expectedRows.toNat) &&
    decide (verification.missingSourceIds = 0) &&
    decide (verification.extraDestinationIds = 0) &&
    decide (verification.expectedDestinationDigest =
      verification.actualDestinationDigest) &&
    verification.rangeOwnershipComplete

/-- One assignment of the plan, checked against its position. -/
def ownsRange (rowsPerPartition : UInt64) (planned : Assignment)
    (position : Nat) : Bool :=
  decide (planned.index =
      (if position < 65536 then UInt16.ofNat position else 65535)) &&
    decide (planned.start =
      ((Word.checkedMul (UInt64.ofNat position) rowsPerPartition).bind
        (fun value => Word.checkedAdd value 1)).getD 0) &&
    decide (planned.stop = planned.start + rowsPerPartition - 1)

def verifyBusiness (sha256 : Bytes → Vector UInt8 32)
    (source : SourceTable) (destination : Destination) (runName : String)
    (rows : UInt64) (partitions : UInt16) (rowsPerPartition : UInt64) :
    Except String BusinessVerification := do
  let (sourceRows, sourceDigest) := sourceIdentity sha256 source
  let (expectedCount, expectedDigest) ←
    expectedDestinationIdentity sha256 source rowsPerPartition
  let written := destination runName
  let (destinationRows, actualDigest) := destinationIdentity sha256 written
  let distinctDestinationIds := (written.entries.map Prod.fst).dedup.length
  let missingSourceIds := source.entries.countP
    (fun row => (written.get? row.1).isNone)
  let extraDestinationIds := written.entries.countP
    (fun row => (source.get? row.1).isNone)
  let rangeOwnershipComplete ←
    if expectedCount = rows.toNat then do
      let plan ← assignments rows partitions
      pure (plan.zipIdx.all
        (fun entry => ownsRange rowsPerPartition entry.1 entry.2))
    else pure false
  return {
    sourceRows
    destinationRows
    distinctDestinationIds
    missingSourceIds
    extraDestinationIds
    sourceDigest
    expectedDestinationDigest := expectedDigest
    actualDestinationDigest := actualDigest
    rangeOwnershipComplete }

end Partition
