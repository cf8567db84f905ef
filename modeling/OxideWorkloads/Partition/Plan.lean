/-
The partition plan of the local-partition workload: the accepted shapes, the
assignment of source ranges to partitions, and the checks by which a worker
and the recovery tool recognize a planned entry.

The framework stores and returns the JSON context of an entry; the model keeps
the payload that the context decodes to.
-/

import OxideWorkloads.Foundation.Checks
import OxideWorkloads.Foundation.EqualBlocks
import OxideWorkloads.Foundation.Word

namespace Partition

open Foundation
open Foundation.Checks

structure PartitionPayload where
  partitionIndex : UInt16
  rangeStart : UInt64
  rangeEnd : UInt64
  sourceDigest : String
  deriving DecidableEq

/-- A planned range; `stop` is its last id. -/
@[ext]
structure Assignment where
  index : UInt16
  key : String
  start : UInt64
  stop : UInt64
  deriving DecidableEq

structure PartitionPlanEntry where
  key : String
  context : PartitionPayload
  deriving DecidableEq

/-! ### Shapes and ranges -/

def validateShape (rows : UInt64) (partitions : UInt16) (workers : UInt8) :
    Except String UInt64 := do
  ensure (rows ≠ 0 ∧ partitions ≠ 0 ∧ workers ≠ 0)
    "rows, partitions, and workers must all be nonzero"
  ensure (workers.toUInt16 ≤ partitions) "workers cannot exceed partitions"
  ensure (rows % partitions.toUInt64 = 0)
    "rows must be exactly divisible by partitions"
  let rowsPerPartition := rows / partitions.toUInt64
  ensure (rowsPerPartition ≠ 0) "every partition must own at least one row"
  let _ ← require (Word.toBigint? rows.toNat)
    "out of range integral type conversion attempted"
  return rowsPerPartition

def partitionKey (index : UInt16) : String :=
  "partition-" ++ Text.zeroPadded 4 index.toNat

/-- The range of an index, as three places of the source compute it. -/
def rangeOf (rowsPerPartition : UInt64) (index : UInt16) :
    Except String (UInt64 × UInt64) := do
  let start ← require
    ((Word.checkedMul index.toUInt64 rowsPerPartition).bind
      (fun value => Word.checkedAdd value 1))
    "partition range start overflowed"
  let stop ← require (Word.checkedAdd start (rowsPerPartition - 1))
    "partition range end overflowed"
  return (start, stop)

def assignment (rowsPerPartition : UInt64) (index : UInt16) :
    Except String Assignment := do
  let (start, stop) ← rangeOf rowsPerPartition index
  return { index, key := partitionKey index, start, stop }

/-- The indices `0..partitions`. -/
def indices (partitions : UInt16) : List UInt16 :=
  (List.range partitions.toNat).map UInt16.ofNat

def assignments (rows : UInt64) (partitions : UInt16) :
    Except String (List Assignment) := do
  let rowsPerPartition ← validateShape rows partitions 1
  (indices partitions).mapM (assignment rowsPerPartition)

def partitionEntry (assignment : Assignment) (sourceDigest : String) :
    PartitionPlanEntry :=
  { key := assignment.key
    context :=
      { partitionIndex := assignment.index
        rangeStart := assignment.start
        rangeEnd := assignment.stop
        sourceDigest } }

/-- The index of the range that holds an id, as the verifier computes it. -/
def ownerIndex (rowsPerPartition : UInt64) (sourceId : Bigint) :
    Except String UInt16 := do
  let sourceIdU64 ← require (Word.toU64? sourceId)
    "out of range integral type conversion attempted"
  require (Word.toU16? ((sourceIdU64 - 1) / rowsPerPartition))
    "out of range integral type conversion attempted"

/-! ### Recognizing a planned entry -/

/-- What a worker is given: the key and the context of its entry, and from its
own launch the digest of the source and the width of a range.  The context is
absent when it could not be serialized, and an error when the bytes do not
decode. -/
structure PartitionWorker where
  runName : String
  key : String
  contextJson : Option (Except String PartitionPayload)
  expectedSourceDigest : String
  rowsPerPartition : UInt64

/-- The key and the range that a worker computes again. -/
def PartitionWorker.recompute (worker : PartitionWorker) (index : UInt16) :
    Except String (String × UInt64 × UInt64) := do
  let (start, stop) ← rangeOf worker.rowsPerPartition index
  return (partitionKey index, start, stop)

/-- The worker's check of its durable assignment. -/
def PartitionWorker.checkAssignment (worker : PartitionWorker) :
    Except String PartitionPayload := do
  let context ← require worker.contextJson
    "partition context could not be serialized"
  let payload ← context.mapError
    (fun error => s!"partition context could not be decoded: {error}")
  let (expectedKey, expectedStart, expectedEnd) ←
    worker.recompute payload.partitionIndex
  ensure (worker.key = expectedKey ∧ payload.rangeStart = expectedStart ∧
      payload.rangeEnd = expectedEnd ∧
      payload.sourceDigest = worker.expectedSourceDigest)
    "durable partition assignment did not match the workload contract"
  return payload

namespace Recoveryctl

/-- The recovery tool's own shape check. -/
def validateShape (rows : UInt64) (partitions : UInt16) :
    Except String UInt64 := do
  ensure (rows ≠ 0 ∧ partitions ≠ 0) "rows and partitions must be nonzero"
  ensure (rows % partitions.toUInt64 = 0)
    "rows must be exactly divisible by partitions"
  let rowsPerPartition := rows / partitions.toUInt64
  ensure (rowsPerPartition ≠ 0) "every partition must own at least one row"
  return rowsPerPartition

def expectedAssignment (rows : UInt64) (partitions index : UInt16) :
    Except String (String × UInt64 × UInt64) := do
  let rowsPerPartition ← validateShape rows partitions
  ensure (index < partitions)
    (s!"partition index {index} exceeds configured partition count " ++
      s!"{partitions}")
  let (start, stop) ← rangeOf rowsPerPartition index
  return ("partition-" ++ Text.zeroPadded 4 index.toNat, start, stop)

/-- The check of one durable entry before a recovery. -/
def recoverEntry (rows : UInt64) (partitions : UInt16)
    (sourceDigest : String) (entry : PartitionPlanEntry) :
    Except String Unit := do
  let payload := entry.context
  let (expectedKey, expectedStart, expectedEnd) ←
    expectedAssignment rows partitions payload.partitionIndex
  ensure (entry.key = expectedKey ∧ payload.rangeStart = expectedStart ∧
      payload.rangeEnd = expectedEnd ∧ payload.sourceDigest = sourceDigest)
    ("durable partition source identity/assignment mismatch for " ++
      s!"{entry.key}: recovery refused")

end Recoveryctl

/-! ### Accepted shapes -/

/-- The numbers of an accepted shape: `width` rows for every partition. -/
structure Shape (rows : UInt64) (partitions : UInt16) (width : UInt64) :
    Prop where
  nonempty : 0 < partitions.toNat
  positive : 0 < width.toNat
  exact : rows.toNat = partitions.toNat * width.toNat
  fits : (rows.toNat : Int) ≤ i64Max

theorem toNat_eq_zero {value : UInt64} : value = 0 ↔ value.toNat = 0 := by
  rw [← UInt64.toNat_inj]
  rfl

theorem width_eq {rows : UInt64} {partitions : UInt16} {width : UInt64}
    (nonempty : 0 < partitions.toNat) :
    rows % partitions.toUInt64 = 0 ∧ rows / partitions.toUInt64 = width ↔
      rows.toNat = partitions.toNat * width.toNat := by
  rw [toNat_eq_zero, ← UInt64.toNat_inj, UInt64.toNat_mod,
    UInt64.toNat_div, UInt16.toNat_toUInt64]
  constructor
  · intro quotient
    have division := Nat.div_add_mod rows.toNat partitions.toNat
    rw [quotient.1, quotient.2] at division
    exact division.symm
  · intro exact
    rw [exact]
    constructor
    · exact Nat.mul_mod_right _ _
    · exact Nat.mul_div_cancel_left _ nonempty

theorem validateShape_eq_ok {rows : UInt64} {partitions : UInt16}
    {workers : UInt8} {width : UInt64} :
    validateShape rows partitions workers = .ok width ↔
      Shape rows partitions width ∧ 0 < workers.toNat ∧
        workers.toNat ≤ partitions.toNat := by
  have zeroRows : rows = 0 ↔ rows.toNat = 0 := toNat_eq_zero
  have zeroPartitions : partitions = 0 ↔ partitions.toNat = 0 :=
    UInt16.toNat_inj.symm
  have zeroWorkers : workers = 0 ↔ workers.toNat = 0 := UInt8.toNat_inj.symm
  have order : workers.toUInt16 ≤ partitions ↔
      workers.toNat ≤ partitions.toNat := by
    rw [UInt16.le_iff_toNat_le, UInt8.toNat_toUInt16]
  have low : i64Min = -9223372036854775808 := rfl
  unfold validateShape
  simp only [bind_eq_ok, ensure_eq_ok, require_eq_ok, pure_eq_ok,
    exists_const, Word.toBigint?_eq_some, ne_eq, order, zeroRows,
    zeroPartitions, zeroWorkers]
  constructor
  · intro accepted
    obtain ⟨⟨_, partitionsSome, workersSome⟩, bounded, divisible,
      widthSome, word, fits, same⟩ := accepted
    have nonempty : 0 < partitions.toNat := by omega
    have exact := (width_eq nonempty).mp ⟨divisible, same⟩
    rw [same, toNat_eq_zero] at widthSome
    refine ⟨⟨nonempty, by omega, exact, ?_⟩, by omega, bounded⟩
    rw [← fits]
    exact word.property.2
  · intro accepted
    obtain ⟨shape, some, bounded⟩ := accepted
    have parts := (width_eq shape.nonempty).mpr shape.exact
    have filled := Nat.mul_pos shape.nonempty shape.positive
    rw [← shape.exact] at filled
    refine ⟨⟨by omega, by omega, by omega⟩, bounded, parts.1, ?_,
      ⟨rows.toNat, by omega, shape.fits⟩, rfl, parts.2⟩
    rw [parts.2, toNat_eq_zero]
    exact Nat.ne_of_gt shape.positive

theorem Recoveryctl.validateShape_of_shape {rows : UInt64}
    {partitions : UInt16} {width : UInt64}
    (shape : Shape rows partitions width) :
    Recoveryctl.validateShape rows partitions = .ok width := by
  have parts := (width_eq shape.nonempty).mpr shape.exact
  have filled := Nat.mul_pos shape.nonempty shape.positive
  rw [← shape.exact] at filled
  have rowsSome : rows ≠ 0 := by
    rw [ne_eq, toNat_eq_zero]
    omega
  have partitionsSome : partitions ≠ 0 := by
    rw [ne_eq, ← UInt16.toNat_inj]
    exact Nat.ne_of_gt shape.nonempty
  have widthSome : rows / partitions.toUInt64 ≠ 0 := by
    rw [parts.2, ne_eq, toNat_eq_zero]
    exact Nat.ne_of_gt shape.positive
  unfold Recoveryctl.validateShape
  simp only [bind_eq_ok, ensure_eq_ok, pure_eq_ok, exists_const]
  exact ⟨⟨rowsSome, partitionsSome⟩, parts.1, widthSome, parts.2⟩

/-! ### Ranges -/

/-- The range of an index, in numbers. -/
structure IsRange (width : UInt64) (index : UInt16) (start stop : UInt64) :
    Prop where
  first : start.toNat = index.toNat * width.toNat + 1
  last : stop.toNat = index.toNat * width.toNat + width.toNat

theorem rangeOf_eq_ok {width : UInt64} {index : UInt16}
    {start stop : UInt64} (positive : 0 < width.toNat) :
    rangeOf width index = .ok (start, stop) ↔
      IsRange width index start stop := by
  have one : (1 : UInt64).toNat = 1 := rfl
  have before : (width - 1).toNat = width.toNat - 1 := by
    apply UInt64.toNat_sub_of_le
    rw [UInt64.le_iff_toNat_le]
    exact positive
  unfold rangeOf
  simp only [bind_eq_ok, require_eq_ok, pure_eq_ok, Option.bind_eq_some_iff,
    Word.checkedMul_eq_some, Word.checkedAdd_eq_some, UInt16.toNat_toUInt64, one,
    before, Prod.mk.injEq]
  constructor
  · intro computed
    obtain ⟨first, ⟨product, multiplied, added⟩, last, summed, sameFirst,
      sameLast⟩ := computed
    rw [sameFirst] at added summed
    rw [sameLast] at summed
    constructor
    · omega
    · omega
  · intro range
    have first := range.first
    have last := range.last
    have limit := stop.toNat_lt
    have product : (UInt64.ofNat (index.toNat * width.toNat)).toNat =
        index.toNat * width.toNat := by
      rw [UInt64.toNat_ofNat', Nat.mod_eq_of_lt (by omega)]
    refine ⟨start, ⟨_, product.symm, ?_⟩, stop, ?_, rfl, rfl⟩
    · omega
    · omega

theorem IsRange.within {width : UInt64} {index : UInt16}
    {start stop : UInt64} (range : IsRange width index start stop)
    (number : Nat) :
    EqualBlocks.Within width.toNat index.toNat number ↔
      start.toNat ≤ number ∧ number ≤ stop.toNat := by
  rw [range.first, range.last]
  rfl

theorem IsRange.unique {width : UInt64} {index : UInt16}
    {start stop otherStart otherStop : UInt64}
    (range : IsRange width index start stop)
    (other : IsRange width index otherStart otherStop) :
    start = otherStart ∧ stop = otherStop := by
  constructor
  · exact UInt64.toNat_inj.mp (range.first.trans other.first.symm)
  · exact UInt64.toNat_inj.mp (range.last.trans other.last.symm)

/-- The ranges of an accepted shape lie inside its rows. -/
theorem Shape.last_le {rows : UInt64} {partitions : UInt16} {width : UInt64}
    (shape : Shape rows partitions width) {index : UInt16}
    (below : index.toNat < partitions.toNat) :
    index.toNat * width.toNat + width.toNat ≤ rows.toNat := by
  rw [shape.exact]
  exact EqualBlocks.last_lt_first below

/-- The range of every index below the partition count, as words. -/
theorem Shape.range {rows : UInt64} {partitions : UInt16} {width : UInt64}
    (shape : Shape rows partitions width) {index : UInt16}
    (below : index.toNat < partitions.toNat) :
    ∃ start stop, IsRange width index start stop := by
  have last := shape.last_le below
  have limit := rows.toNat_lt
  have positive := shape.positive
  refine ⟨UInt64.ofNat (index.toNat * width.toNat + 1),
    UInt64.ofNat (index.toNat * width.toNat + width.toNat), ?_, ?_⟩
  · rw [UInt64.toNat_ofNat', Nat.mod_eq_of_lt (by omega)]
  · rw [UInt64.toNat_ofNat', Nat.mod_eq_of_lt (by omega)]

end Partition
