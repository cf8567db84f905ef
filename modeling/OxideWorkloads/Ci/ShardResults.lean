/-
The jobs around the aggregate verdict: the matrices that discovery gives out,
the result that a shard writes, the reading of the downloaded results, and the
dispositions that stand in for entries without an MSRV.

A result file is what the JSON parser makes of it.  Reading one ends the whole
run where its bytes are no text or where a value without a hash is looked up.
-/

import OxideWorkloads.Ci.AggregateVerdict
import OxideWorkloads.Ci.Registry

namespace Aggregate

open Foundation
open Foundation.Checks
open Registry (Members get? at_ isBlank)

def validStatuses : List String := ["success", "failure"]
def validOutcomes : List String := ["validated", "not-applicable"]

/-! ### Discovery -/

def textOrNull : Option String → Json
  | some text => .string text
  | none => .null

/-- An entry as the registry validator returns it. -/
def entryDocument (entry : Registry.Entry) : Members :=
  [("kind", .string entry.kind),
    ("name", .string entry.name),
    ("path", .string entry.path),
    ("msrv", .object [
      ("declared", .bool entry.msrv.declared),
      ("version", textOrNull entry.msrv.version),
      ("policy_reason", textOrNull entry.msrv.policyReason)])]

def matrixDocument (entries : List Registry.Entry) : Json :=
  .object [("include", .array (entries.map fun entry =>
    .object (entryDocument entry)))]

/-- The entries that every shard job and every verdict is about. -/
def discover (found : Registry.Discovered) : List Registry.Entry :=
  found.workloads ++ found.fixtures

/-- The entries that an MSRV runner is started for. -/
def discoverMsrv (found : Registry.Discovered) : List Registry.Entry :=
  (discover found).filter (fun entry => entry.msrv.declared)

def discoverSupplyChain (found : Registry.Discovered) : List Registry.Entry :=
  found.workloads

/-! The registry is what its validation ends with. -/

def discoverMsrvWorkloads (registry : Except String Registry.Discovered) :
    Except String Json := do
  let found ← registry
  return matrixDocument (discoverMsrv found)

def discoverSupplyChainWorkloads
    (registry : Except String Registry.Discovered) : Except String Json := do
  let found ← registry
  ensure (discoverSupplyChain found ≠ [])
    "supply-chain discovery produced zero real workloads"
  return matrixDocument (discoverSupplyChain found)

/-- The array of entries of a matrix. -/
def includeOf (matrix : Json) : Option (List Json) :=
  match matrix with
  | .object members =>
      match get? members "include" with
      | some (.array entries) => some entries
      | _ => none
  | _ => none

/-! ### The result of a shard -/

/-- What a shard writes: its name and stage come from the caller, its status
from the exit code alone. -/
def buildResult (workload stage : String) (exitCode : Option Int)
    (notApplicable : Bool) (reason : Option String) :
    Except String Members := do
  ensure (¬(notApplicable = true ∧ exitCode.isSome = true))
    "--exit-code and --not-applicable are mutually exclusive"
  ensure (¬(notApplicable = false ∧ exitCode = none))
    "one of --exit-code or --not-applicable is required"
  if notApplicable then
    ensure (stage = "msrv") "--not-applicable is only valid for --stage msrv"
    let reason ← require reason
      "--reason is required and must be non-empty with --not-applicable"
    ensure (isBlank reason = false)
      "--reason is required and must be non-empty with --not-applicable"
    return [("workload", .string workload), ("stage", .string stage),
      ("status", .string "success"), ("outcome", .string "not-applicable"),
      ("reason", .string reason)]
  else
    let exitCode ← require exitCode
      "one of --exit-code or --not-applicable is required"
    return [("workload", .string workload), ("stage", .string stage),
      ("status", .string (if exitCode = 0 then "success" else "failure")),
      ("outcome", .string "validated"), ("exit_code", .integer exitCode)]

/-! ### The downloaded results -/

inductive Content where
  | document (value : Json)
  | invalid (error : String)
  | undecodable (error : String)

/-- A file below the results directory. -/
structure ResultFile where
  path : List String
  content : Content

def ResultFile.name (file : ResultFile) : String :=
  file.path.getLast?.getD ""

/-- The results directory; one that does not exist holds nothing. -/
structure Directory where
  files : List ResultFile
  distinct : (files.map ResultFile.path).Nodup

theorem written_distinct (directory : Directory) (file : ResultFile) :
    ((directory.files.filter (fun other => other.path ≠ file.path) ++
      [file]).map ResultFile.path).Nodup := by
  rw [List.map_append, List.map_singleton, List.nodup_append]
  refine ⟨?_, List.nodup_singleton _, ?_⟩
  · exact directory.distinct.sublist (List.filter_sublist.map _)
  · intro before member after same
    obtain ⟨other, inside, isBefore⟩ := List.mem_map.mp member
    have different := (List.mem_filter.mp inside).2
    rw [decide_eq_true_eq, isBefore] at different
    rw [List.mem_singleton.mp same]
    exact different

def Directory.write (directory : Directory) (file : ResultFile) :
    Directory where
  files := directory.files.filter (fun other => other.path ≠ file.path) ++
    [file]
  distinct := written_distinct directory file

def Directory.empty : Directory where
  files := []
  distinct := List.nodup_nil

/-- An artifact of a shard; its name follows the pattern of the stage. -/
structure Artifact where
  suffix : String
  files : List ResultFile

def Artifact.downloaded (stage : String) (artifact : Artifact) :
    List ResultFile :=
  artifact.files.map (fun file =>
    { file with path := s!"result-{stage}-{artifact.suffix}" :: file.path })

/-- Every artifact of the stage, in a directory of its name. -/
def download (stage : String) (artifacts : List Artifact) : Directory :=
  (artifacts.flatMap (Artifact.downloaded stage)).foldl Directory.write
    Directory.empty

/-- A result as it is read; nothing says that its workload is a text. -/
structure LoadedResult where
  workload : Json
  stage : String
  status : String
  outcome : String
  source : String

structure Loaded where
  results : List LoadedResult
  errors : List String

def Loaded.keep (loaded : Loaded) (result : LoadedResult) : Loaded :=
  { loaded with results := loaded.results ++ [result] }

def Loaded.fail (loaded : Loaded) (file : ResultFile) (error : String) :
    Loaded :=
  { loaded with errors := loaded.errors ++ [s!"{file.name}: {error}"] }

/-- A value of a set of texts, if it is one.  What has no hash cannot be
looked up. -/
def inTexts (texts : List String) : Json → Except String (Option String)
  | .string text => .ok (if text ∈ texts then some text else none)
  | .array _ => .error "unhashable type: 'list'"
  | .object _ => .error "unhashable type: 'dict'"
  | _ => .ok none

/-- The keys that a result needs, in the order they are reported in. -/
def resultKeys : List String := ["outcome", "stage", "status", "workload"]

section Loading

variable (repr : Json → String)

/-- The names that a search for results finds. -/
def isResultName (name : String) : Bool := ".json".toList.isSuffixOf name.toList

variable (floatIs : String → Int → Bool)

def truthy : Json → Bool
  | .null => false
  | .bool value => value
  | .integer value => value ≠ 0
  | .float text => floatIs text 0 = false
  | .string text => text ≠ ""
  | .array items => items.length ≠ 0
  | .object members => members.length ≠ 0

/-- The exit code of a run that computes a verdict is zero. -/
def passed : Except String Verdict → Bool
  | .ok verdict => verdict.ok
  | .error _ => false

end Loading

end Aggregate
