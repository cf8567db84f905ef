/-
The durable records of a campaign: what is written, as JSON documents, and how
the typed readers take a document apart again.

The JSON library keeps the members of an object sorted by key, so the members
below stand in that order, except for records that are serialized directly
from a structure.
-/

import OxideWorkloads.Endurance.Plan
import OxideWorkloads.Foundation.JsonReader

namespace Endurance

open Foundation
open Foundation.JsonGrammar (DocumentReader)

def campaignSchema : String := "oxide-batch-workloads.endurance-campaign"
def eventSchema : String := "oxide-batch-workloads.endurance-event"
def iterationSchema : String := "oxide-batch-workloads.endurance-iteration"
def failureSchema : String := "oxide-batch-workloads.endurance-failure"
def sampleSchema : String := "oxide-batch-workloads.endurance-sample"
def schemaVersion : Nat := 1
def workloadName : String := "postgres-postgres"
def oxideBatchVersion : String := "0.6.0"

def terminalSuccessPhase : String := "iteration-terminal-success"
def terminalFailurePhase : String := "iteration-terminal-failure"

/-- The JSON library: a reader for untyped documents, and the one under the
typed readers.  The second may be more lenient inside members that the typed
reader skips. -/
structure SerdeJson where
  value : DocumentReader
  record : DocumentReader

/-! ### Results of an iteration -/

structure ChildProcessResult where
  pid : UInt32
  success : Bool
  code : Option Int32
  status : String
  deriving DecidableEq

structure CleanIterationResult where
  campaignId : String
  sequence : Nat
  reader : EnduranceReader
  importName : String
  chunkSize : Nat
  fetchSize : Option Nat
  pageSize : Option Nat
  run : ChildProcessResult
  verification : ChildProcessResult
  cleanupDeletedRows : UInt64
  deriving DecidableEq

structure CrashProcessResult where
  pid : UInt32
  markerPid : UInt32
  markerBoundary : String
  success : Bool
  code : Option Int32
  signal : Option Int32
  status : String
  reaped : Bool
  deriving DecidableEq

structure CrashStateSnapshot where
  executionStatus : String
  executionExitCode : String
  commitCount : Int64
  checkpointPosition : Int64
  businessRows : Int64
  deriving DecidableEq

structure CrashIterationResult where
  campaignId : String
  sequence : Nat
  reader : EnduranceReader
  failure : EnduranceFailure
  importName : String
  chunkSize : Nat
  fetchSize : Option Nat
  pageSize : Option Nat
  failAtChunk : Nat
  crash : CrashProcessResult
  postCrash : CrashStateSnapshot
  plainRelaunch : ChildProcessResult
  recovery : ChildProcessResult
  continuation : ChildProcessResult
  verification : ChildProcessResult
  cleanupDeletedRows : UInt64
  deriving DecidableEq

inductive RecordedExecutionResult where
  | clean (result : CleanIterationResult)
  | crash (result : CrashIterationResult)
  deriving DecidableEq

inductive FailureClass where
  | harnessEnvironment
  | workloadChild
  | verification
  deriving DecidableEq

def FailureClass.name : FailureClass → String
  | .harnessEnvironment => "harness-environment"
  | .workloadChild => "workload-child"
  | .verification => "verification"

/-! ### Serialization -/

section Serialization

def jsonCode (code : Option Int32) : Json :=
  Json.ofOption (fun value => .integer value.toInt) code

def jsonSize (size : Option Nat) : Json :=
  Json.ofOption Json.ofNat size

def ChildProcessResult.toJson (process : ChildProcessResult) : Json :=
  .object
    [("code", jsonCode process.code),
      ("pid", .ofNat process.pid.toNat),
      ("status", .string process.status),
      ("success", .bool process.success)]

def IterationPlan.toJson (plan : IterationPlan) : Json :=
  .object
    [("campaign_id", .string plan.campaignId),
      ("failure", .string plan.failure.name),
      ("import_name", .string plan.importName),
      ("reader", .string plan.reader.asStr),
      ("sequence", .ofNat plan.sequence)]

def CleanIterationResult.toJson (result : CleanIterationResult) : Json :=
  .object
    [("campaign_id", .string result.campaignId),
      ("chunk_size", .ofNat result.chunkSize),
      ("cleanup_deleted_rows", .ofNat result.cleanupDeletedRows.toNat),
      ("fetch_size", jsonSize result.fetchSize),
      ("import_name", .string result.importName),
      ("page_size", jsonSize result.pageSize),
      ("reader", .string result.reader.asStr),
      ("run", result.run.toJson),
      ("sequence", .ofNat result.sequence),
      ("verification", result.verification.toJson)]

def CrashProcessResult.toJson (crash : CrashProcessResult) : Json :=
  .object
    [("code", jsonCode crash.code),
      ("marker_boundary", .string crash.markerBoundary),
      ("marker_pid", .ofNat crash.markerPid.toNat),
      ("pid", .ofNat crash.pid.toNat),
      ("reaped", .bool crash.reaped),
      ("signal", jsonCode crash.signal),
      ("status", .string crash.status),
      ("success", .bool crash.success)]

def CrashStateSnapshot.toJson (state : CrashStateSnapshot) : Json :=
  .object
    [("business_rows", .integer state.businessRows.toInt),
      ("checkpoint_position", .integer state.checkpointPosition.toInt),
      ("commit_count", .integer state.commitCount.toInt),
      ("execution_exit_code", .string state.executionExitCode),
      ("execution_status", .string state.executionStatus)]

def CrashIterationResult.toJson (result : CrashIterationResult) : Json :=
  .object
    [("campaign_id", .string result.campaignId),
      ("chunk_size", .ofNat result.chunkSize),
      ("cleanup_deleted_rows", .ofNat result.cleanupDeletedRows.toNat),
      ("continuation", result.continuation.toJson),
      ("crash", result.crash.toJson),
      ("fail_at_chunk", .ofNat result.failAtChunk),
      ("failure", .string result.failure.name),
      ("fetch_size", jsonSize result.fetchSize),
      ("import_name", .string result.importName),
      ("page_size", jsonSize result.pageSize),
      ("plain_relaunch", result.plainRelaunch.toJson),
      ("post_crash", result.postCrash.toJson),
      ("reader", .string result.reader.asStr),
      ("recovery", result.recovery.toJson),
      ("sequence", .ofNat result.sequence),
      ("verification", result.verification.toJson)]

def RecordedExecutionResult.toJson : RecordedExecutionResult → Json
  | .clean result =>
      .object [("kind", .string "clean"), ("result", result.toJson)]
  | .crash result =>
      .object [("kind", .string "crash"), ("result", result.toJson)]

/-- One line of the event log. -/
def eventJson (timestamp : Nat) (campaignId : String) (sequence : Nat)
    (phase : String) (detail : Json) : Json :=
  .object
    [("campaign_id", .string campaignId),
      ("detail", detail),
      ("phase", .string phase),
      ("schema", .string eventSchema),
      ("schema_version", .ofNat schemaVersion),
      ("sequence", .ofNat sequence),
      ("timestamp_unix_nanos_utc", .ofNat timestamp)]

/-- The singleton of a successful iteration. -/
def iterationJson (timestamp : Nat) (campaignId : String) (sequence : Nat)
    (execution : RecordedExecutionResult) : Json :=
  .object
    [("campaign_id", .string campaignId),
      ("execution", execution.toJson),
      ("schema", .string iterationSchema),
      ("schema_version", .ofNat schemaVersion),
      ("sequence", .ofNat sequence),
      ("terminal", .string "success"),
      ("timestamp_unix_nanos_utc", .ofNat timestamp)]

/-- One failure artifact. -/
def failureJson (timestamp : Nat) (campaignId : String) (sequence : Nat)
    (failureClass : FailureClass) (error : String) : Json :=
  .object
    [("campaign_id", .string campaignId),
      ("error", .string error),
      ("failure_class", .string failureClass.name),
      ("schema", .string failureSchema),
      ("schema_version", .ofNat schemaVersion),
      ("sequence", .ofNat sequence),
      ("terminal", .string "failure"),
      ("timestamp_unix_nanos_utc", .ofNat timestamp)]

end Serialization

structure BinaryIdentity where
  path : String
  sizeBytes : Nat
  sha256 : String
  deriving DecidableEq

structure CampaignRecord where
  schema : String
  schemaVersion : Nat
  createdAtUnixNanosUtc : Nat
  campaignId : String
  workload : String
  oxideBatchVersion : String
  sourceRows : Nat
  seed : Nat
  chunkSize : Nat
  cursorFetchSize : Nat
  pagingPageSize : Nat
  workloadBinary : BinaryIdentity
  deriving DecidableEq

/-- The campaign record is serialized from its structure, field by field. -/
def CampaignRecord.toJson (campaign : CampaignRecord) : Json :=
  .object
    [("schema", .string campaign.schema),
      ("schema_version", .ofNat campaign.schemaVersion),
      ("created_at_unix_nanos_utc", .ofNat campaign.createdAtUnixNanosUtc),
      ("campaign_id", .string campaign.campaignId),
      ("workload", .string campaign.workload),
      ("oxide_batch_version", .string campaign.oxideBatchVersion),
      ("source_rows", .ofNat campaign.sourceRows),
      ("seed", .ofNat campaign.seed),
      ("chunk_size", .ofNat campaign.chunkSize),
      ("cursor_fetch_size", .ofNat campaign.cursorFetchSize),
      ("paging_page_size", .ofNat campaign.pagingPageSize),
      ("workload_binary", .object
        [("path", .string campaign.workloadBinary.path),
          ("size_bytes", .ofNat campaign.workloadBinary.sizeBytes),
          ("sha256", .string campaign.workloadBinary.sha256)])]

/-! ### Typed readers -/

/-- The value of one declared field of an object. -/
def fieldValue (members : List (String × Json)) (name : String) :
    Except String Json :=
  match members.filter (fun member => member.1 = name) with
  | [] => .error s!"missing field `{name}`"
  | [member] => .ok member.2
  | _ => .error s!"duplicate field `{name}`"

def fieldValues (members : List (String × Json)) :
    List String → Except String (List Json)
  | [] => .ok []
  | name :: rest =>
      match fieldValue members name with
      | .error error => .error error
      | .ok value =>
          match fieldValues members rest with
          | .error error => .error error
          | .ok values => .ok (value :: values)

/-- The declared fields of a derived reader, in order.  An object may have
further members; an array must have exactly the fields. -/
def recordFields (names : List String) : Json → Except String (List Json)
  | .object members => fieldValues members names
  | .array items =>
      if items.length = names.length then .ok items
      else .error s!"invalid length {items.length}"
  | _ => .error "invalid type: expected struct"

def decodeString : Json → Except String String
  | .string text => .ok text
  | _ => .error "invalid type: expected a string"

/-- An unsigned integer of at most `limit`. -/
def decodeUnsigned (limit : Nat) : Json → Except String Nat
  | .integer value =>
      if 0 ≤ value ∧ value ≤ limit then .ok value.toNat
      else .error s!"invalid value: integer `{value}`"
  | _ => .error "invalid type: expected an unsigned integer"

def u32Max : Nat := 4294967295

structure EventRecord where
  schema : String
  schemaVersion : Nat
  campaignId : String
  sequence : Nat
  phase : String
  deriving DecidableEq

def EventRecord.deserialize (document : Json) : Except String EventRecord := do
  match ← recordFields
      ["schema", "schema_version", "campaign_id", "sequence", "phase"]
      document with
  | [schema, version, campaignId, sequence, phase] =>
      return {
        schema := ← decodeString schema
        schemaVersion := ← decodeUnsigned u32Max version
        campaignId := ← decodeString campaignId
        sequence := ← decodeUnsigned u64Max sequence
        phase := ← decodeString phase }
  | _ => .error "invalid length"

structure IterationRecord where
  schema : String
  schemaVersion : Nat
  campaignId : String
  sequence : Nat
  terminal : String
  execution : Json

def IterationRecord.deserialize (document : Json) :
    Except String IterationRecord := do
  match ← recordFields
      ["schema", "schema_version", "campaign_id", "sequence", "terminal",
        "execution"] document with
  | [schema, version, campaignId, sequence, terminal, execution] =>
      return {
        schema := ← decodeString schema
        schemaVersion := ← decodeUnsigned u32Max version
        campaignId := ← decodeString campaignId
        sequence := ← decodeUnsigned u64Max sequence
        terminal := ← decodeString terminal
        execution := execution }
  | _ => .error "invalid length"

structure FailureRecord where
  schema : String
  schemaVersion : Nat
  campaignId : String
  sequence : Nat
  terminal : String
  deriving DecidableEq

def FailureRecord.deserialize (document : Json) :
    Except String FailureRecord := do
  match ← recordFields
      ["schema", "schema_version", "campaign_id", "sequence", "terminal"]
      document with
  | [schema, version, campaignId, sequence, terminal] =>
      return {
        schema := ← decodeString schema
        schemaVersion := ← decodeUnsigned u32Max version
        campaignId := ← decodeString campaignId
        sequence := ← decodeUnsigned u64Max sequence
        terminal := ← decodeString terminal }
  | _ => .error "invalid length"

def BinaryIdentity.deserialize (document : Json) :
    Except String BinaryIdentity := do
  match ← recordFields ["path", "size_bytes", "sha256"] document with
  | [path, size, sha256] =>
      return {
        path := ← decodeString path
        sizeBytes := ← decodeUnsigned u64Max size
        sha256 := ← decodeString sha256 }
  | _ => .error "invalid length"

def CampaignRecord.deserialize (document : Json) :
    Except String CampaignRecord := do
  match ← recordFields
      ["schema", "schema_version", "created_at_unix_nanos_utc", "campaign_id",
        "workload", "oxide_batch_version", "source_rows", "seed",
        "chunk_size", "cursor_fetch_size", "paging_page_size",
        "workload_binary"] document with
  | [schema, version, created, campaignId, workload, oxideBatch, sourceRows,
      seed, chunkSize, cursorFetchSize, pagingPageSize, binary] =>
      return {
        schema := ← decodeString schema
        schemaVersion := ← decodeUnsigned u32Max version
        createdAtUnixNanosUtc := ← decodeUnsigned u64Max created
        campaignId := ← decodeString campaignId
        workload := ← decodeString workload
        oxideBatchVersion := ← decodeString oxideBatch
        sourceRows := ← decodeUnsigned u64Max sourceRows
        seed := ← decodeUnsigned u64Max seed
        chunkSize := ← decodeUnsigned u32Max chunkSize
        cursorFetchSize := ← decodeUnsigned u64Max cursorFetchSize
        pagingPageSize := ← decodeUnsigned u64Max pagingPageSize
        workloadBinary := ← BinaryIdentity.deserialize binary }
  | _ => .error "invalid length"

/-! ### Written records are plain documents -/

section Plain

theorem plain_ofNat {limit value : Nat} (bounded : value ≤ u64Max) :
    (Json.ofNat value).plain limit = true := by
  have low : i64Min ≤ 0 := by decide
  simp only [Json.ofNat, Json.plain, Bool.and_eq_true, decide_eq_true_eq]
  omega

theorem plain_integer {limit : Nat} {value : Int} (low : i64Min ≤ value)
    (high : value ≤ i64Max) : (Json.integer value).plain limit = true := by
  have limit64 : (u64Max : Int) = 18446744073709551615 := by decide
  simp only [Json.plain, Bool.and_eq_true, decide_eq_true_eq, limit64]
  simp only [i64Max] at high
  exact ⟨low, by omega⟩

theorem plain_int64 (limit : Nat) (value : Int64) :
    (Json.integer value.toInt).plain limit = true := by
  have low := value.le_toInt
  have high := value.toInt_lt
  exact plain_integer (by simp only [i64Min]; omega)
    (by simp only [i64Max]; omega)

theorem plain_jsonCode (limit : Nat) (code : Option Int32) :
    (jsonCode code).plain limit = true := by
  cases code with
  | none => rfl
  | some value =>
      have low := value.le_toInt
      have high := value.toInt_lt
      exact plain_integer (by simp only [i64Min]; omega)
        (by simp only [i64Max]; omega)

theorem plain_uint32 (limit : Nat) (value : UInt32) :
    (Json.ofNat value.toNat).plain limit = true := by
  have small := value.toNat_lt
  exact plain_ofNat (by simp only [u64Max]; omega)

theorem plain_uint64 (limit : Nat) (value : UInt64) :
    (Json.ofNat value.toNat).plain limit = true := by
  have small := value.toNat_lt
  exact plain_ofNat (by simp only [u64Max]; omega)

theorem plain_object (limit : Nat) (members : List (String × Json)) :
    (Json.object members).plain (limit + 1) =
      ((members.map Prod.fst).Nodup && Json.plainMembers limit members) := by
  rw [Json.plain]

theorem plain_string (limit : Nat) (text : String) :
    (Json.string text).plain limit = true := by
  rw [Json.plain]

theorem plain_bool (limit : Nat) (value : Bool) :
    (Json.bool value).plain limit = true := by
  rw [Json.plain]

theorem plain_child (limit : Nat) (process : ChildProcessResult) :
    process.toJson.plain (limit + 1) = true := by
  simp [ChildProcessResult.toJson, plain_object, Json.plainMembers,
    plain_jsonCode, plain_uint32, plain_string, plain_bool]

theorem plain_plan (limit : Nat) {plan : IterationPlan}
    (bounded : plan.sequence ≤ u64Max) :
    plan.toJson.plain (limit + 1) = true := by
  simp [IterationPlan.toJson, plain_object, Json.plainMembers,
    plain_ofNat bounded, plain_string]

theorem plain_crashProcess (limit : Nat) (crash : CrashProcessResult) :
    crash.toJson.plain (limit + 1) = true := by
  simp [CrashProcessResult.toJson, plain_object, Json.plainMembers,
    plain_jsonCode, plain_uint32, plain_string, plain_bool]

theorem plain_snapshot (limit : Nat) (state : CrashStateSnapshot) :
    state.toJson.plain (limit + 1) = true := by
  simp [CrashStateSnapshot.toJson, plain_object, Json.plainMembers,
    plain_int64, plain_string]

theorem plain_event {limit timestamp sequence : Nat} {detail : Json}
    (campaignId phase : String) (bounded : sequence ≤ u64Max)
    (inTime : timestamp ≤ u64Max) (plainDetail : detail.plain limit = true) :
    (eventJson timestamp campaignId sequence phase detail).plain (limit + 1) =
      true := by
  have version : schemaVersion ≤ u64Max := by decide
  simp [eventJson, plain_object, Json.plainMembers, plain_ofNat bounded,
    plain_ofNat inTime, plain_ofNat version, plainDetail, plain_string]

/-- The numbers of an execution result that are not bounded by their type. -/
def RecordedExecutionResult.Bounded : RecordedExecutionResult → Prop
  | .clean result =>
      result.sequence ≤ u64Max ∧ result.chunkSize ≤ u64Max ∧
        (∀ size ∈ result.fetchSize, size ≤ u64Max) ∧
          ∀ size ∈ result.pageSize, size ≤ u64Max
  | .crash result =>
      result.sequence ≤ u64Max ∧ result.chunkSize ≤ u64Max ∧
        result.failAtChunk ≤ u64Max ∧
          (∀ size ∈ result.fetchSize, size ≤ u64Max) ∧
            ∀ size ∈ result.pageSize, size ≤ u64Max

theorem plain_jsonSize (limit : Nat) {size : Option Nat}
    (bounded : ∀ value ∈ size, value ≤ u64Max) :
    (jsonSize size).plain limit = true := by
  cases size with
  | none => rfl
  | some value => exact plain_ofNat (bounded value rfl)

theorem plain_execution (limit : Nat) {execution : RecordedExecutionResult}
    (bounded : execution.Bounded) :
    execution.toJson.plain (limit + 3) = true := by
  cases execution with
  | clean result =>
      obtain ⟨sequence, chunk, fetch, page⟩ := bounded
      simp [RecordedExecutionResult.toJson, CleanIterationResult.toJson,
        plain_object, Json.plainMembers, plain_string, plain_child,
        plain_uint64, plain_ofNat sequence, plain_ofNat chunk,
        plain_jsonSize _ fetch, plain_jsonSize _ page]
  | crash result =>
      obtain ⟨sequence, chunk, failAt, fetch, page⟩ := bounded
      simp [RecordedExecutionResult.toJson, CrashIterationResult.toJson,
        plain_object, Json.plainMembers, plain_string, plain_child,
        plain_crashProcess, plain_snapshot, plain_uint64,
        plain_ofNat sequence, plain_ofNat chunk, plain_ofNat failAt,
        plain_jsonSize _ fetch, plain_jsonSize _ page]

theorem plain_iteration (limit : Nat) {timestamp sequence : Nat}
    {execution : RecordedExecutionResult} (campaignId : String)
    (bounded : sequence ≤ u64Max) (inTime : timestamp ≤ u64Max)
    (boundedExecution : execution.Bounded) :
    (iterationJson timestamp campaignId sequence execution).plain
      (limit + 4) = true := by
  have version : schemaVersion ≤ u64Max := by decide
  simp [iterationJson, plain_object, Json.plainMembers, plain_string,
    plain_ofNat bounded, plain_ofNat inTime, plain_ofNat version,
    plain_execution limit boundedExecution]

end Plain

end Endurance
