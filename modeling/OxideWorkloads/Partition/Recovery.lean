/-
The recovery tool: the identity of the source that it computes, the mutation of
one source row, and the recovery of the last execution of a run.

A recovery is offered exactly for an execution that did not end and whose
stored plan is the plan of the source as it is now.  What the framework then
does with the request is not modelled.
-/

import OxideWorkloads.Partition.BusinessExact
import OxideWorkloads.Partition.FrameworkPlan

namespace Partition

open Foundation
open Foundation.Checks
open Foundation.LineLog (Bytes)
open Foundation.Json (utf8)
open Projection (utf8_injective)

variable {Status : Type}

namespace Recoveryctl

/-! ### The source -/

/-- The update of one row: what the tool returns, and the source after it. -/
def mutateSource (source : SourceTable) (sourceId delta : Bigint) :
    Except String Unit × SourceTable :=
  if delta.val = 0 then (.error "delta must be nonzero", source)
  else
    match source.get? sourceId with
    | none =>
        (.error "source mutation expected exactly one row, changed 0", source)
    | some payload =>
        match Word.toBigint? (payload.val + delta.val) with
        | none => (.error "bigint out of range", source)
        | some changed => (.ok (), source.insert sourceId changed)

/-! ### The recovery -/

/-- An execution of the job: its manager step's plan, if it has the step. -/
structure JobExecution (Status : Type) where
  version : Nat
  status : Status
  manager : Option (List (DurablePartition Status))

/-- The request that marks an execution as failed. -/
structure RecoveryRequest where
  version : Nat
  code : String
  actor : String
  evidenceDigest : Vector UInt8 32
  failureId : Nat

/-- One turn of the loop over the durable partitions. -/
def recoverPartition (rows : UInt64) (partitions : UInt16)
    (sourceDigest : String) (partition : DurablePartition Status) :
    Except String Unit := do
  let context ← partition.context
  recoverEntry rows partitions sourceDigest { key := partition.key, context }

def evidence (sha256 : Bytes → Vector UInt8 32) (runName : String) :
    Vector UInt8 32 :=
  sha256 (utf8 ("campaign93-local-partition-recovery:" ++ runName))

/-- The recovery of the last execution of a job instance, up to the request;
`unfinished` holds of the statuses starting, started, stopping and unknown. -/
def recover (sha256 : Bytes → Vector UInt8 32) (unfinished : Status → Bool)
    (display : Status → String) (source : SourceTable) (runName : String)
    (instance_ : Option (List (JobExecution Status))) (rows : UInt64)
    (partitions : UInt16) : Except String RecoveryRequest := do
  let _ ← validateShape rows partitions
  let (sourceRows, sourceDigest) := sourceIdentity sha256 source
  ensure (sourceRows = rows.toNat)
    s!"source contains {sourceRows} rows, expected {rows}"
  let executions ← require instance_ "durable job instance is missing"
  let execution ← require executions.getLast?
    "durable job execution is missing"
  let durable ← require execution.manager "partition manager step is missing"
  ensure (unfinished execution.status = true)
    s!"latest execution status is {display execution.status}, which does not require crash recovery"
  let sorted := sortByKey durable
  ensure (sorted.length = partitions.toNat)
    s!"durable partition count is {sorted.length}, expected {partitions}"
  sorted.forM (recoverPartition rows partitions sourceDigest)
  return {
    version := execution.version
    code := "CAMPAIGN93_EXTERNAL_SIGKILL_INSPECTED"
    actor := "postgres-local-partition-recoveryctl"
    evidenceDigest := evidence sha256 runName
    failureId := 93 }

end Recoveryctl

/-! ### The hashed text of the source -/

def sourceLine (row : Bigint × Bigint) : List Char :=
  (Text.signed row.1.val).toList ++ '|' :: (Text.signed row.2.val).toList

/-- The bytes that the identity of a source hashes. -/
def sourceText (source : SourceTable) : Bytes :=
  utf8 (String.ofList (Separated.close '\n' (source.entries.map sourceLine)))

theorem sourceIdentity_eq (sha256 : Bytes → Vector UInt8 32)
    (source : SourceTable) :
    sourceIdentity sha256 source =
      (source.entries.length, finishDigest sha256 (sourceText source)) := by
  have lines : source.entries.flatMap (fun row => (Text.signed row.1.val ++
      "|" ++ Text.signed row.2.val ++ "\n").toList) =
      Separated.close '\n' (source.entries.map sourceLine) := by
    unfold Separated.close
    rw [List.flatMap_map]
    apply List.flatMap_congr
    intro row _
    simp [sourceLine]
  rw [sourceIdentity, lines]
  rfl

theorem sourceLine_free (row : Bigint × Bigint) : '\n' ∉ sourceLine row := by
  have free := signed_free (by decide : '\n' ≠ '-') (by decide)
  unfold sourceLine
  rw [List.mem_append, List.mem_cons]
  intro member
  rcases member with inId | same | inValue
  · exact free _ inId
  · exact absurd same (by decide)
  · exact free _ inValue

theorem sourceLine_injective {first second : Bigint × Bigint}
    (same : sourceLine first = sourceLine second) : first = second := by
  have free := signed_free (by decide : '|' ≠ '-') (by decide)
  obtain ⟨ids, values⟩ := Separated.append_injective (free _) (free _) same
  have sameId := Text.signed_injective (String.toList_inj.mp ids)
  have sameValue := Text.signed_injective (String.toList_inj.mp values)
  exact Prod.ext (Subtype.ext sameId) (Subtype.ext sameValue)

/-- Different sources are hashed as different texts. -/
theorem sourceText_injective {first second : SourceTable}
    (same : sourceText first = sourceText second) : first = second := by
  have texts := String.ofList_injective (utf8_injective same)
  have free : ∀ source : SourceTable,
      ∀ line ∈ source.entries.map sourceLine, '\n' ∉ line := by
    intro source line member
    obtain ⟨row, _, isLine⟩ := List.mem_map.mp member
    rw [← isLine]
    exact sourceLine_free row
  have lines := Separated.close_injective_of_free (free first) (free second)
    texts
  have entries := List.map_injective_iff.mpr
    (fun _ _ => sourceLine_injective) lines
  obtain ⟨entries', sorted⟩ := first
  obtain ⟨entries'', sorted'⟩ := second
  cases entries
  rfl

/-- The hashed texts of two sources do not collide. -/
def ApartSources (sha256 : Bytes → Vector UInt8 32)
    (first second : SourceTable) : Prop :=
  sha256 (sourceText first) = sha256 (sourceText second) →
    sourceText first = sourceText second

theorem eq_of_digest {sha256 : Bytes → Vector UInt8 32}
    {first second : SourceTable} (apart : ApartSources sha256 first second)
    (same : (sourceIdentity sha256 first).2 =
      (sourceIdentity sha256 second).2) : first = second := by
  rw [sourceIdentity_eq, sourceIdentity_eq] at same
  exact sourceText_injective (apart (finishDigest_injective same))

/-! ### Stored plans -/

/-- The plan of a shape as the framework stores it, in any order and with any
statuses. -/
def StoresPlan (plan : List Assignment) (sourceDigest : String)
    (durable : List (DurablePartition Status)) : Prop :=
  (durable.map fun partition => (partition.key, partition.context)).Perm
    (plan.map fun planned =>
      (planned.key, .ok (partitionEntry planned sourceDigest).context))

theorem recoverPartition_eq_ok {rows : UInt64} {partitions : UInt16}
    {width : UInt64} {plan : List Assignment} {sourceDigest : String}
    {partition : DurablePartition Status}
    (shape : Shape rows partitions width)
    (isPlan : IsPlan partitions width plan) :
    Recoveryctl.recoverPartition rows partitions sourceDigest partition =
        .ok () ↔
      ∃ planned ∈ plan, partition.key = planned.key ∧
        partition.context =
          .ok (partitionEntry planned sourceDigest).context := by
  rw [Recoveryctl.recoverPartition, bind_eq_ok]
  constructor
  · intro accepted
    obtain ⟨context, decoded, checked⟩ := accepted
    obtain ⟨below, complete, digest⟩ := (recoverEntry_eq_ok shape).mp checked
    obtain ⟨planned, member, same⟩ :=
      (isPlan.planned_iff _).mpr ⟨below, complete⟩
    rw [digest] at same
    refine ⟨planned, member, ?_, ?_⟩
    · exact congrArg PartitionPlanEntry.key same
    · rw [decoded]
      exact congrArg (fun entry => Except.ok (PartitionPlanEntry.context entry))
        same
  · intro stored
    obtain ⟨planned, member, key, context⟩ := stored
    refine ⟨_, context, (recoverEntry_eq_ok shape).mpr ?_⟩
    rw [key]
    obtain ⟨below, complete⟩ :=
      (isPlan.planned_iff (partitionEntry planned sourceDigest)).mp
        ⟨planned, member, rfl⟩
    exact ⟨below, complete, rfl⟩

/-- As many partitions as the plan has, each of them planned and none twice,
are the plan. -/
theorem storesPlan_iff {rows : UInt64} {partitions : UInt16} {width : UInt64}
    {plan : List Assignment} {sourceDigest : String}
    {durable : List (DurablePartition Status)}
    (shape : Shape rows partitions width)
    (isPlan : IsPlan partitions width plan)
    (distinct : (durable.map DurablePartition.key).Nodup) :
    StoresPlan plan sourceDigest durable ↔
      durable.length = partitions.toNat ∧
        ∀ partition ∈ durable, Recoveryctl.recoverPartition rows partitions
          sourceDigest partition = .ok () := by
  have keyed : (durable.map fun partition =>
      (partition.key, partition.context)).Nodup := by
    refine List.Nodup.of_map Prod.fst ?_
    rw [List.map_map]
    exact distinct
  constructor
  · intro stores
    have length := stores.length_eq
    rw [List.length_map, List.length_map, isPlan.length_eq] at length
    refine ⟨length, ?_⟩
    intro partition member
    obtain ⟨planned, inPlan, same⟩ := List.mem_map.mp (stores.mem_iff.mp
      (List.mem_map_of_mem (f := fun partition : DurablePartition Status =>
        (partition.key, partition.context)) member))
    exact (recoverPartition_eq_ok shape isPlan).mpr ⟨planned, inPlan,
      (congrArg Prod.fst same).symm, (congrArg Prod.snd same).symm⟩
  · intro accepted
    obtain ⟨length, each⟩ := accepted
    refine (List.subperm_of_subset keyed ?_).perm_of_length_le ?_
    · intro stored member
      obtain ⟨partition, inDurable, same⟩ := List.mem_map.mp member
      obtain ⟨planned, inPlan, key, context⟩ :=
        (recoverPartition_eq_ok shape isPlan).mp (each partition inDurable)
      rw [← same, key, context]
      exact List.mem_map_of_mem inPlan
    · rw [List.length_map, List.length_map, isPlan.length_eq, length]

/-! ### Recovery -/

/-- A recovery is offered exactly for the last execution of the instance, if it
did not end, the source has its rows, and the stored plan is that of the source
as it is now. -/
theorem recover_eq_ok {sha256 : Bytes → Vector UInt8 32}
    {unfinished : Status → Bool} {display : Status → String}
    {source : SourceTable} {runName : String} {rows : UInt64}
    {partitions : UInt16} {width : UInt64} {plan : List Assignment}
    {executions : List (Recoveryctl.JobExecution Status)}
    {execution : Recoveryctl.JobExecution Status}
    {durable : List (DurablePartition Status)}
    {request : Recoveryctl.RecoveryRequest}
    (shape : Shape rows partitions width)
    (isPlan : IsPlan partitions width plan)
    (latest : executions.getLast? = some execution)
    (manager : execution.manager = some durable)
    (distinct : (durable.map DurablePartition.key).Nodup) :
    Recoveryctl.recover sha256 unfinished display source runName
        (some executions) rows partitions = .ok request ↔
      source.entries.length = rows.toNat ∧
        unfinished execution.status = true ∧
        StoresPlan plan (sourceIdentity sha256 source).2 durable ∧
        request = {
          version := execution.version
          code := "CAMPAIGN93_EXTERNAL_SIGKILL_INSPECTED"
          actor := "postgres-local-partition-recoveryctl"
          evidenceDigest := Recoveryctl.evidence sha256 runName
          failureId := 93 } := by
  have same := sortByKey_perm durable
  have length := same.length_eq
  rw [storesPlan_iff shape isPlan distinct]
  unfold Recoveryctl.recover
  rw [Recoveryctl.validateShape_of_shape shape, sourceIdentity_eq]
  simp only [ok_bind, bind_eq_ok, ensure_eq_ok, require_eq_ok, pure_eq_ok,
    forM_eq_ok, exists_const, Option.some.injEq, exists_eq_left', latest,
    manager, length, same.mem_iff]
  constructor
  · intro accepted
    obtain ⟨rowCount, live, count, each, isRequest⟩ := accepted
    exact ⟨rowCount, live, ⟨count, each⟩, isRequest.symm⟩
  · intro accepted
    obtain ⟨rowCount, live, ⟨count, each⟩, isRequest⟩ := accepted
    exact ⟨rowCount, live, count, each, isRequest.symm⟩

/-- A stored plan has one digest. -/
theorem StoresPlan.digest_eq {plan : List Assignment} {first second : String}
    {durable : List (DurablePartition Status)} (nonempty : plan ≠ [])
    (stores : StoresPlan plan first durable)
    (again : StoresPlan plan second durable) : first = second := by
  obtain ⟨planned, member⟩ := List.exists_mem_of_ne_nil plan nonempty
  have listed := (stores.symm.trans again).mem_iff.mp
    (List.mem_map_of_mem member)
  obtain ⟨other, _, same⟩ := List.mem_map.mp listed
  have contexts := Except.ok.inj (congrArg Prod.snd same)
  exact (congrArg PartitionPayload.sourceDigest contexts).symm

/-- A recovery is offered exactly for the last execution of the run, if it did
not end, the source has its rows, and the stored plan is the plan of the source
as it is now.  For a plan that was made for another source this means: not
before the source is that one again. -/
theorem recover_exact {rows : UInt64} {partitions : UInt16} {workers : UInt8}
    {width : UInt64} {plan : List Assignment}
    (accepted : validateShape rows partitions workers = .ok width)
    (built : assignments rows partitions = .ok plan)
    {executions : List (Recoveryctl.JobExecution Status)}
    {execution : Recoveryctl.JobExecution Status}
    {durable : List (DurablePartition Status)}
    (latest : executions.getLast? = some execution)
    (manager : execution.manager = some durable)
    (distinct : (durable.map DurablePartition.key).Nodup)
    (sha256 : Bytes → Vector UInt8 32) (unfinished : Status → Bool)
    (display : Status → String) (runName : String) :
    (∀ source request,
      Recoveryctl.recover sha256 unfinished display source runName
          (some executions) rows partitions = .ok request ↔
        source.entries.length = rows.toNat ∧
          unfinished execution.status = true ∧
          StoresPlan plan (sourceIdentity sha256 source).2 durable ∧
          request = {
            version := execution.version
            code := "CAMPAIGN93_EXTERNAL_SIGKILL_INSPECTED"
            actor := "postgres-local-partition-recoveryctl"
            evidenceDigest := Recoveryctl.evidence sha256 runName
            failureId := 93 }) ∧
      ∀ source origin, ApartSources sha256 source origin →
        origin.entries.length = rows.toNat →
        StoresPlan plan (sourceIdentity sha256 origin).2 durable →
          ((∃ request, Recoveryctl.recover sha256 unfinished display source
              runName (some executions) rows partitions = .ok request) ↔
            unfinished execution.status = true ∧ source = origin) := by
  have shape := (validateShape_eq_ok.mp accepted).1
  have isPlan := (assignments_eq_ok shape).mp built
  have exactly : ∀ source request, _ := fun source request =>
    @recover_eq_ok Status sha256 unfinished display source runName rows
      partitions width plan executions execution durable request shape isPlan
      latest manager distinct
  refine ⟨exactly, ?_⟩
  intro source origin apart total stores
  constructor
  · intro offered
    obtain ⟨request, recovered⟩ := offered
    obtain ⟨_, live, storesNow, _⟩ := (exactly source request).mp recovered
    have nonempty : plan ≠ [] := by
      intro empty
      have length := isPlan.length_eq
      rw [empty, List.length_nil] at length
      exact absurd shape.nonempty (by omega)
    exact ⟨live, eq_of_digest apart (storesNow.digest_eq nonempty stores)⟩
  · intro ready
    obtain ⟨live, same⟩ := ready
    rw [← same] at total stores
    exact ⟨_, (exactly source _).mpr ⟨total, live, stores, rfl⟩⟩

/-- The stored plan of `fourRows`, the later range first. -/
def fourStored : List (DurablePartition Bool) :=
  twoRanges.reverse.map (fun planned =>
    { key := planned.key
      ordinal := planned.index.toUInt32 + 1
      status := false
      context := .ok (partitionEntry planned
        (sourceIdentity Sha256.digest fourRows).2).context })

/-- `fourRows` after a change of its last value. -/
def fourChanged : SourceTable :=
  { entries := [(small 1, small 10), (small 2, small 20), (small 3, small 30),
      (small 4, small 6)]
    sorted := by decide }

theorem recover_exact_four :
    (∃ request, Recoveryctl.recover Sha256.digest not (fun _ => "") fourRows
        "run" (some [{ version := 3, status := false
                       manager := some fourStored }]) 4 2 = .ok request) ∧
      ¬∃ request, Recoveryctl.recover Sha256.digest not (fun _ => "")
        fourChanged "run" (some [{ version := 3, status := false
                                   manager := some fourStored }]) 4 2 =
          .ok request := by
  have distinct : (fourStored.map DurablePartition.key).Nodup := by
    decide
  have stored : StoresPlan twoRanges
      (sourceIdentity Sha256.digest fourRows).2 fourStored := by
    unfold StoresPlan fourStored
    rw [List.map_map]
    exact (List.reverse_perm twoRanges).map _
  have apart : ApartSources Sha256.digest fourChanged fourRows := by
    intro same
    exact absurd same (by decide +kernel)
  have offered := (recover_exact (by decide : validateShape 4 2 1 = .ok 2)
    (by decide : assignments 4 2 = .ok twoRanges)
    (by rfl : [({ version := 3, status := false, manager := some fourStored } :
      Recoveryctl.JobExecution Bool)].getLast? = some _) rfl distinct
    Sha256.digest not (fun _ => "") "run").2
  constructor
  · exact (offered fourRows fourRows (fun _ => rfl) rfl stored).mpr ⟨rfl, rfl⟩
  · intro accepted
    have same := ((offered fourChanged fourRows apart rfl stored).mp accepted).2
    have values := congrArg (fun source => source.get? (small 4)) same
    exact absurd values (by decide)

end Partition
