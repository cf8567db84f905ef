/-
The aggregate verdict of the workload jobs, over the expected shards and the
results of the shards.

A verdict is good until a check fails it; the checks go on, to give every
reason.  Sorted iterations compare names by their characters; the quoting of
texts in the reasons is given from outside.
-/

import OxideWorkloads.Foundation.Dict

namespace Aggregate

open Foundation

structure ExpectedShard where
  name : String
  expectedOutcome : String
  deriving DecidableEq

structure ShardResult where
  workload : String
  stage : String
  status : String
  outcome : String
  source : String
  deriving DecidableEq

structure Verdict where
  ok : Bool
  reasons : List String
  deriving DecidableEq

def Verdict.fail (verdict : Verdict) (reason : String) : Verdict :=
  { ok := false
    reasons := verdict.reasons ++ [reason] }

/-- The verdict, failed if the check does not hold. -/
def Verdict.check (verdict : Verdict) (holds : Bool) (reason : String) :
    Verdict :=
  if holds then verdict else verdict.fail reason

/-- Entries in the order of their names. -/
def sortByName {β : Type} (entries : List (String × β)) :
    List (String × β) :=
  entries.mergeSort fun left right => decide (left.1 ≤ right.1)

section Checks

variable (repr : String → String)

/-- One turn of the loop over the expected shards. -/
def listExpected (state : Verdict × Dict String ExpectedShard)
    (entry : ExpectedShard) : Verdict × Dict String ExpectedShard :=
  let verdict := state.1.check (entry.name ∉ state.2.keys)
    s!"internal error: expected workload list contains duplicate name {repr entry.name}"
  (verdict, state.2.set entry.name entry)

/-- The results of each workload, in their order. -/
def groupResults (results : List ShardResult) :
    Dict String (List ShardResult) :=
  results.foldl
    (fun groups result => groups.set result.workload
      ((groups.get? result.workload).getD [] ++ [result]))
    Dict.empty

def sourcesOf (entries : List ShardResult) : String :=
  ", ".intercalate (entries.map ShardResult.source)

/-- One turn of the loop over the results of each workload. -/
def checkGroup (expectedByName : Dict String ExpectedShard)
    (verdict : Verdict) (group : String × List ShardResult) : Verdict :=
  let verdict := verdict.check (group.2.length ≤ 1)
    s!"duplicate result(s) for workload {repr group.1}: {sourcesOf group.2}"
  verdict.check (group.1 ∈ expectedByName.keys)
    s!"unexpected extra result for unregistered/renamed workload {repr group.1}: {sourcesOf group.2}"

def missingReason (jobStatuses : List (String × String)) (workload : String) :
    String :=
  match jobStatuses.lookup workload with
  | some status =>
      if status = "cancelled" then
        s!"missing result for workload {repr workload}: shard job was cancelled"
      else if status = "skipped" then
        s!"missing result for workload {repr workload}: shard job was unexpectedly skipped"
      else
        s!"missing result for workload {repr workload}: shard job conclusion was {repr status}"
  | none =>
      s!"missing result for workload {repr workload}: no shard result found"

/-- One turn of the loop over the expected workloads. -/
def checkShard (byWorkload : Dict String (List ShardResult))
    (jobStatuses : List (String × String)) (verdict : Verdict)
    (shard : String × ExpectedShard) : Verdict :=
  match (byWorkload.get? shard.1).getD [] with
  | [] => verdict.fail (missingReason repr jobStatuses shard.1)
  | entry :: _ =>
      if entry.status ≠ "success" then
        verdict.fail
          s!"workload {repr shard.1} shard reported failure ({entry.stage})"
      else
        verdict.check (entry.outcome = shard.2.expectedOutcome)
          s!"workload {repr shard.1} {entry.stage} result has outcome {repr entry.outcome} but its registered policy requires {repr shard.2.expectedOutcome}"

structure Upstream where
  discoveryOk : Bool
  upstreamJobOk : Bool
  parseErrors : Option (List String)
  jobStatuses : Option (List (String × String))

def computeVerdict (expected : List ExpectedShard)
    (results : List ShardResult) (upstream : Upstream) : Verdict :=
  let verdict : Verdict := { ok := true, reasons := [] }
  let verdict := verdict.check upstream.discoveryOk
    "registry/discovery step did not succeed; aggregate cannot trust the expected workload set"
  let verdict := verdict.check (expected ≠ [])
    "zero-workload state: canonical discovery produced no expected workloads"
  let listed := expected.foldl (listExpected repr) (verdict, Dict.empty)
  let verdict := (upstream.parseErrors.getD []).foldl
    (fun verdict error => verdict.fail s!"malformed result: {error}") listed.1
  let byWorkload := groupResults results
  let verdict := (sortByName byWorkload.entries).foldl
    (checkGroup repr listed.2) verdict
  let verdict := (sortByName listed.2.entries).foldl
    (checkShard repr byWorkload (upstream.jobStatuses.getD [])) verdict
  verdict.check upstream.upstreamJobOk
    "fan-out job did not report success at the GitHub Actions job level"

end Checks

end Aggregate
