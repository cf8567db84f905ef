/-
The verification of the durable partition plan: the stored entries, sorted by
the text of their keys, are compared position by position with the plan.

Finding the job instance, its last execution and its manager step in the
framework's repository is left out; the statuses are the framework's.
-/

import OxideWorkloads.Foundation.DecimalOrder
import OxideWorkloads.Partition.PlanExact

namespace Partition

open Foundation
open Foundation.Checks

variable {Status : Type}

/-- A stored partition.  Its context may fail to decode. -/
structure DurablePartition (Status : Type) where
  key : String
  ordinal : UInt32
  status : Status
  context : Except String PartitionPayload

/-- What the repository returns for the last execution of a job. -/
structure DurableJob (Status : Type) where
  executionStatus : Status
  parentStatus : Status
  partitions : List (DurablePartition Status)

structure NormalizedDurableState where
  jobStatus : String
  parentStatus : String
  partitions : List (String × String)

structure FrameworkVerification where
  terminalStateConsistent : Bool
  durablePartitionPlanMatchesExpected : Bool
  durablePartitionContextsMatchExpected : Bool
  normalized : NormalizedDurableState

def FrameworkVerification.passed (verification : FrameworkVerification) :
    Bool :=
  verification.terminalStateConsistent &&
    verification.durablePartitionPlanMatchesExpected &&
    verification.durablePartitionContextsMatchExpected

/-- What the comparison has found so far: whether the plan and whether the
contexts match. -/
structure Matches where
  plan : Bool
  contexts : Bool

/-- The loop over the sorted partitions, from a position on. -/
def compareFrom (expected : List Assignment) (sourceDigest : String) :
    Nat → List (DurablePartition Status) → Matches → Except String Matches
  | _, [], found => .ok found
  | position, partition :: rest, found =>
      match expected[position]? with
      | none =>
          compareFrom expected sourceDigest (position + 1) rest
            { plan := false, contexts := false }
      | some expectedAssignment => do
          let planMatches := found.plan &&
            decide (partition.key = expectedAssignment.key ∧
              partition.ordinal = expectedAssignment.index.toUInt32 + 1)
          let payload ← partition.context
          let contextsMatch := found.contexts &&
            decide (payload.partitionIndex = expectedAssignment.index ∧
              payload.rangeStart = expectedAssignment.start ∧
              payload.rangeEnd = expectedAssignment.stop ∧
              payload.sourceDigest = sourceDigest)
          compareFrom expected sourceDigest (position + 1) rest
            { plan := planMatches, contexts := contextsMatch }

/-- The stored partitions in the text order of their keys. -/
def sortByKey (durable : List (DurablePartition Status)) :
    List (DurablePartition Status) :=
  durable.mergeSort (fun left right => decide (left.key ≤ right.key))

/-- The verification; `completed` is the framework's completed status and
`text` its display. -/
def verifyFramework [DecidableEq Status] (completed : Status)
    (text : Status → String)
    (job : DurableJob Status) (rows : UInt64) (partitions : UInt16)
    (sourceDigest : String) : Except String FrameworkVerification := do
  let durable := sortByKey job.partitions
  let expected ← assignments rows partitions
  let sameLength := decide (durable.length = expected.length)
  let found ← compareFrom expected sourceDigest 0 durable
    { plan := sameLength, contexts := sameLength }
  let allPartitionsCompleted :=
    durable.all (fun partition => decide (partition.status = completed))
  return {
      terminalStateConsistent :=
        decide (job.executionStatus = completed) &&
          decide (job.parentStatus = completed) && allPartitionsCompleted
      durablePartitionPlanMatchesExpected := found.plan
      durablePartitionContextsMatchExpected := found.contexts
      normalized :=
        { jobStatus := text job.executionStatus
          parentStatus := text job.parentStatus
          partitions := durable.map
            (fun partition => (partition.key, text partition.status)) } }

/-! ### The comparison -/

/-- What the comparison reads of a stored partition. -/
def DurablePartition.stored (partition : DurablePartition Status) :
    String × UInt32 × Except String PartitionPayload :=
  (partition.key, partition.ordinal, partition.context)

/-- What the framework stores for a planned assignment. -/
def honest (sourceDigest : String) (planned : Assignment) :
    String × UInt32 × Except String PartitionPayload :=
  ((partitionEntry planned sourceDigest).key, planned.index.toUInt32 + 1,
    .ok (partitionEntry planned sourceDigest).context)

/-- Both matches so far. -/
def Matches.all : Matches := { plan := true, contexts := true }

/-- A mismatch is never forgotten. -/
theorem compareFrom_keeps {expected : List Assignment}
    {sourceDigest : String} {durable : List (DurablePartition Status)}
    {position : Nat} {found : Matches}
    (compared : compareFrom expected sourceDigest position durable found =
      .ok Matches.all) : found = Matches.all := by
  induction durable generalizing position found with
  | nil => exact Except.ok.inj compared
  | cons partition rest ih =>
      rw [compareFrom] at compared
      split at compared
      · cases ih compared
      · simp only [bind_eq_ok] at compared
        obtain ⟨payload, _, later⟩ := compared
        have flags := ih later
        simp only [Matches.all, Matches.mk.injEq, Bool.and_eq_true] at flags
        obtain ⟨plan, contexts⟩ := found
        rw [Matches.all, Matches.mk.injEq]
        exact ⟨flags.1.1, flags.2.1⟩

theorem stored_eq_honest {partition : DurablePartition Status}
    {planned : Assignment} {sourceDigest : String} :
    partition.stored = honest sourceDigest planned ↔
      (partition.key = planned.key ∧
        partition.ordinal = planned.index.toUInt32 + 1) ∧
      ∃ payload, partition.context = .ok payload ∧
        payload.partitionIndex = planned.index ∧
        payload.rangeStart = planned.start ∧
        payload.rangeEnd = planned.stop ∧
        payload.sourceDigest = sourceDigest := by
  unfold DurablePartition.stored honest partitionEntry
  rw [Prod.mk.injEq, Prod.mk.injEq, and_assoc]
  constructor
  · intro same
    exact ⟨same.1, same.2.1, _, same.2.2, rfl, rfl, rfl, rfl⟩
  · intro parts
    obtain ⟨key, ordinal, payload, context, index, start, stop, digest⟩ :=
      parts
    refine ⟨key, ordinal, ?_⟩
    rw [context, ← index, ← start, ← stop, ← digest]

/-- With as many partitions as assignments, both flags stay true exactly when
every partition is stored as it was planned. -/
theorem compareFrom_matches {expected : List Assignment}
    {sourceDigest : String} {durable : List (DurablePartition Status)}
    {position : Nat}
    (sameLength : durable.length = (expected.drop position).length) :
    compareFrom expected sourceDigest position durable Matches.all =
        .ok Matches.all ↔
      durable.map DurablePartition.stored =
        (expected.drop position).map (honest sourceDigest) := by
  induction durable generalizing position with
  | nil =>
      have empty := List.eq_nil_of_length_eq_zero sameLength.symm
      rw [empty, compareFrom]
      exact ⟨fun _ => rfl, fun _ => rfl⟩
  | cons partition rest ih =>
      have within : position < expected.length := by
        rw [List.length_drop, List.length_cons] at sameLength
        omega
      have split := List.drop_eq_getElem_cons within
      rw [split, List.length_cons, List.length_cons] at sameLength
      have tail := ih (Nat.succ.inj sameLength)
      rw [compareFrom, List.getElem?_eq_getElem within, split, List.map_cons,
        List.map_cons, List.cons.injEq, stored_eq_honest, ← tail]
      simp only [bind_eq_ok, Matches.all, Bool.true_and]
      constructor
      · intro compared
        obtain ⟨payload, context, later⟩ := compared
        have flags := compareFrom_keeps later
        simp only [Matches.all, Matches.mk.injEq,
          decide_eq_true_eq] at flags
        simp only [flags.1, flags.2, and_self, decide_true] at later
        exact ⟨⟨flags.1, payload, context, flags.2⟩, later⟩
      · intro parts
        obtain ⟨⟨key, payload, context, fields⟩, later⟩ := parts
        refine ⟨payload, context, ?_⟩
        simp only [key, fields, and_self, decide_true]
        exact later

theorem verifyFramework_matches [DecidableEq Status] {completed : Status}
    {text : Status → String} {job : DurableJob Status} {rows : UInt64}
    {partitions : UInt16} {width : UInt64} {sourceDigest : String}
    {plan : List Assignment} (shape : Shape rows partitions width)
    (isPlan : IsPlan partitions width plan) :
    (∃ verification,
      verifyFramework completed text job rows partitions sourceDigest =
          .ok verification ∧
        verification.durablePartitionPlanMatchesExpected = true ∧
        verification.durablePartitionContextsMatchExpected = true) ↔
      (sortByKey job.partitions).map DurablePartition.stored =
        plan.map (honest sourceDigest) := by
  have built := (assignments_eq_ok shape).mpr isPlan
  unfold verifyFramework
  simp only [built, ok_bind, bind_eq_ok, pure_eq_ok]
  constructor
  · intro verified
    obtain ⟨verification, ⟨found, compared, same⟩, planTrue, contextsTrue⟩ :=
      verified
    rw [← same] at planTrue contextsTrue
    have all : found = Matches.all := by
      obtain ⟨plan, contexts⟩ := found
      exact congr (congrArg Matches.mk planTrue) contextsTrue
    rw [all] at compared
    have start := compareFrom_keeps compared
    rw [start] at compared
    have sameLength := congrArg Matches.plan start
    simp only [Matches.all, decide_eq_true_eq] at sameLength
    exact (compareFrom_matches (by rw [sameLength]; rfl)).mp compared
  · intro equal
    have lengths := congrArg List.length equal
    rw [List.length_map, List.length_map] at lengths
    have compared : compareFrom plan sourceDigest 0
        (sortByKey job.partitions) Matches.all = .ok Matches.all :=
      (compareFrom_matches (by rw [lengths]; rfl)).mpr equal
    refine ⟨_, ⟨Matches.all, ?_, rfl⟩, rfl, rfl⟩
    rw [← compared]
    simp only [lengths, decide_true]
    rfl

/-! ### The text order of the keys -/

/-- Keys of four-digit indices are ordered as the indices. -/
theorem partitionKey_le {first second : UInt16}
    (padded : second.toNat < 10000) (before : first.toNat ≤ second.toNat) :
    partitionKey first ≤ partitionKey second := by
  have fits : Nat.pow 10 4 = 10000 := rfl
  unfold partitionKey
  rw [← String.not_lt, Text.append_lt_append_iff,
    Text.zeroPadded_lt_iff (by omega) (by omega) (by omega)]
  omega

/-- The first key that outgrows the padding comes before many others. -/
theorem partitionKey_outgrown : partitionKey 10000 < partitionKey 1001 := by
  decide

theorem sortByKey_perm (durable : List (DurablePartition Status)) :
    (sortByKey durable).Perm durable :=
  List.mergeSort_perm _ _

theorem sortByKey_ascending (durable : List (DurablePartition Status)) :
    (sortByKey durable).Pairwise
      (fun left right => left.key ≤ right.key) := by
  have sorted : (sortByKey durable).Pairwise (fun left right =>
      decide (left.key ≤ right.key) = true) := List.pairwise_mergeSort
    (fun first second third below above => by
      simp only [decide_eq_true_eq] at below above ⊢
      exact String.le_trans below above)
    (fun first second => by
      simp only [Bool.or_eq_true, decide_eq_true_eq]
      exact String.le_total _ _) durable
  exact sorted.imp (fun order => of_decide_eq_true order)

/-- The durable partitions are the planned entries in some order, each with
its ordinal and its context unchanged. -/
def Honest (plan : List Assignment) (sourceDigest : String)
    (durable : List (DurablePartition Status)) : Prop :=
  (durable.map DurablePartition.stored).Perm
    (plan.map (honest sourceDigest))

/-- Sorting an honest list gives the plan back exactly when the keys of the
plan ascend as texts. -/
theorem sortByKey_eq_plan {partitions : UInt16} {width : UInt64}
    {plan : List Assignment} {sourceDigest : String}
    {durable : List (DurablePartition Status)}
    (isPlan : IsPlan partitions width plan)
    (stored : Honest plan sourceDigest durable) :
    (sortByKey durable).map DurablePartition.stored =
        plan.map (honest sourceDigest) ↔
      plan.Pairwise (fun first second => first.key ≤ second.key) := by
  have sorted : ((sortByKey durable).map DurablePartition.stored).Pairwise
      (fun left right => left.1 ≤ right.1) :=
    List.pairwise_map.mpr (sortByKey_ascending durable)
  constructor
  · intro equal
    rw [equal, List.pairwise_map] at sorted
    exact sorted
  · intro ascending
    have perm : ((sortByKey durable).map DurablePartition.stored).Perm
        (plan.map (honest sourceDigest)) :=
      ((sortByKey_perm durable).map _).trans stored
    apply List.Perm.eq_of_pairwise ?_ sorted
      (List.pairwise_map.mpr ascending) perm
    intro left right inLeft inRight below above
    obtain ⟨first, inFirst, sameFirst⟩ :=
      List.mem_map.mp (perm.mem_iff.mp inLeft)
    obtain ⟨second, inSecond, sameSecond⟩ := List.mem_map.mp inRight
    have keys : first.key = second.key := by
      rw [← sameFirst, ← sameSecond] at below above
      exact String.le_antisymm below above
    rw [isPlan.keyed first inFirst, isPlan.keyed second inSecond] at keys
    rw [← sameFirst, ← sameSecond, isPlan.eq_of_index inFirst inSecond
      (partitionKey_injective keys)]

/-- The keys of a plan ascend as texts exactly when none outgrows the
padding. -/
theorem keys_ascend_iff {partitions : UInt16} {width : UInt64}
    {plan : List Assignment} (isPlan : IsPlan partitions width plan) :
    plan.Pairwise (fun first second => first.key ≤ second.key) ↔
      partitions.toNat ≤ 10000 := by
  rw [List.pairwise_iff_getElem]
  have keyAt : ∀ position (within : position < plan.length),
      plan[position].key = partitionKey plan[position].index ∧
        plan[position].index.toNat = position := by
    intro position within
    exact ⟨isPlan.keyed _ (List.getElem_mem within),
      isPlan.index_at (List.getElem?_eq_getElem within)⟩
  have length := isPlan.length_eq
  constructor
  · intro ascending
    by_contra outgrown
    have low : 1001 < plan.length := by omega
    have high : 10000 < plan.length := by omega
    have order := ascending 1001 10000 low high (by omega)
    have lowKey := keyAt 1001 low
    have highKey := keyAt 10000 high
    have lowIndex : plan[1001].index = 1001 := UInt16.toNat_inj.mp lowKey.2
    have highIndex : plan[10000].index = 10000 :=
      UInt16.toNat_inj.mp highKey.2
    rw [lowKey.1, highKey.1, lowIndex, highIndex] at order
    exact String.not_lt.mpr order partitionKey_outgrown
  · intro padded first second inFirst inSecond before
    have firstKey := keyAt first inFirst
    have secondKey := keyAt second inSecond
    rw [firstKey.1, secondKey.1]
    apply partitionKey_le
    · omega
    · omega

/-- Framework verification accepts the honest durable plans of an accepted
shape exactly when no partition index outgrows the padding of the keys. -/
theorem verifyFramework_accepts_honest [DecidableEq Status]
    {completed : Status} {text : Status → String} {rows : UInt64}
    {partitions : UInt16} {workers : UInt8} {width : UInt64}
    (accepted : validateShape rows partitions workers = .ok width)
    {plan : List Assignment} (built : assignments rows partitions = .ok plan)
    (sourceDigest : String) (job : DurableJob Status)
    (stored : Honest plan sourceDigest job.partitions) :
    (∃ verification,
      verifyFramework completed text job rows partitions sourceDigest =
          .ok verification ∧
        verification.durablePartitionPlanMatchesExpected = true ∧
        verification.durablePartitionContextsMatchExpected = true) ↔
      partitions.toNat ≤ 10000 := by
  have shape := (validateShape_eq_ok.mp accepted).1
  have isPlan := (assignments_eq_ok shape).mp built
  rw [verifyFramework_matches shape isPlan, sortByKey_eq_plan isPlan stored,
    keys_ascend_iff isPlan]

/-- The durable partitions in the order of the plan, all completed. -/
def storeInOrder (plan : List Assignment) (sourceDigest : String) :
    List (DurablePartition Bool) :=
  plan.map (fun planned =>
    { key := planned.key
      ordinal := planned.index.toUInt32 + 1
      status := true
      context := .ok (partitionEntry planned sourceDigest).context })

theorem storeInOrder_honest (plan : List Assignment)
    (sourceDigest : String) :
    Honest plan sourceDigest (storeInOrder plan sourceDigest) := by
  unfold Honest storeInOrder
  rw [List.map_map]
  exact List.Perm.refl _

theorem verifyFramework_accepts_two :
    ∃ plan, assignments 4 2 = .ok plan ∧
      ∃ verification,
        verifyFramework true (fun _ => "COMPLETED")
            { executionStatus := true, parentStatus := true,
              partitions := storeInOrder plan "digest" } 4 2 "digest" =
            .ok verification ∧
          verification.durablePartitionPlanMatchesExpected = true ∧
          verification.durablePartitionContextsMatchExpected = true := by
  have accepted : validateShape 4 2 1 = .ok 2 := by decide
  have shape := (validateShape_eq_ok.mp accepted).1
  obtain ⟨plan, isPlan⟩ := shape.plan
  have built := (assignments_eq_ok shape).mpr isPlan
  exact ⟨plan, built,
    (verifyFramework_accepts_honest accepted built "digest" _
      (storeInOrder_honest plan "digest")).mpr (by decide)⟩

/-- With 10001 partitions of one row, a plan that is stored in its own order
is not recognized. -/
theorem honest_rejected :
    validateShape 10001 10001 1 = .ok 1 ∧
      ∃ plan, assignments 10001 10001 = .ok plan ∧
        ¬ ∃ verification,
          verifyFramework true (fun _ => "COMPLETED")
              { executionStatus := true, parentStatus := true,
                partitions := storeInOrder plan "digest" } 10001 10001
              "digest" = .ok verification ∧
            verification.durablePartitionPlanMatchesExpected = true ∧
            verification.durablePartitionContextsMatchExpected = true := by
  have accepted : validateShape 10001 10001 1 = .ok 1 := by decide
  have shape := (validateShape_eq_ok.mp accepted).1
  obtain ⟨plan, isPlan⟩ := shape.plan
  refine ⟨accepted, plan, (assignments_eq_ok shape).mpr isPlan, ?_⟩
  rw [verifyFramework_matches shape isPlan,
    sortByKey_eq_plan isPlan (storeInOrder_honest plan "digest"),
    keys_ascend_iff isPlan]
  decide

end Partition
