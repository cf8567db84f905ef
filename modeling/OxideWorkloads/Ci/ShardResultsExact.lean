/-
A stage passes exactly when every file it downloaded can be read and its
results correspond, one to one, to the entries that it is about.
-/

import Mathlib.Data.Set.List
import OxideWorkloads.Ci.AggregateVerdictExact
import OxideWorkloads.Ci.RegistryExact
import OxideWorkloads.Ci.ShardResults

namespace Aggregate

open Foundation
open Foundation.Checks
open Registry (Members get? at_ isBlank)

variable {repr : Json → String} {floatIs : String → Int → Bool}

/-! ### One file -/

/-- A file that holds a result, a valid one if it is of the stage. -/
def Readable (stage : String) (file : ResultFile) : Prop :=
  ∃ members, file.content = .document (.object members) ∧
    (∀ key ∈ resultKeys, (get? members key).isSome = true) ∧
    ((at_ members "stage").asString = some stage →
      (∃ status ∈ validStatuses,
        get? members "status" = some (.string status)) ∧
      ∃ outcome ∈ validOutcomes,
        get? members "outcome" = some (.string outcome))

/-- The result of the stage that a file holds. -/
def resultOf (stage : String) (file : ResultFile) : Option LoadedResult :=
  match file.content with
  | .document (.object members) =>
      if (at_ members "stage").asString = some stage then
        some {
          workload := at_ members "workload"
          stage
          status := (at_ members "status").asString.getD ""
          outcome := (at_ members "outcome").asString.getD ""
          source := file.name }
      else none
  | _ => none

/-- The files that a search for results finds. -/
def resultFiles (directory : Directory) : List ResultFile :=
  directory.files.filter (fun file => isResultName file.name)

/-- The results of a stage in a directory. -/
def resultsOf (stage : String) (directory : Directory) : List LoadedResult :=
  (resultFiles directory).filterMap (resultOf stage)

def requiredOutcome (stage : String) (entry : Registry.Entry) : String :=
  if stage = "ci" ∨ stage = "supply-chain" ∨ entry.msrv.declared = true then
    "validated"
  else "not-applicable"

theorem entry_name (entry : Registry.Entry) :
    at_ (entryDocument entry) "name" = .string entry.name :=
  rfl

theorem includeOf_matrix (entries : List Registry.Entry) :
    includeOf (matrixDocument entries) =
      some (entries.map fun entry => .object (entryDocument entry)) :=
  rfl

def ShardResult.loaded (result : ShardResult) : LoadedResult :=
  { workload := .string result.workload
    stage := result.stage
    status := result.status
    outcome := result.outcome
    source := result.source }

/-- Good results, one to one, in terms of rearrangements. -/
theorem complete_iff {expected : List ExpectedShard}
    {results : List ShardResult} {upstream : Upstream}
    (nonempty : expected ≠ [])
    (distinct : (expected.map ExpectedShard.name).Nodup) :
    Complete expected results upstream ↔
      upstream.discoveryOk = true ∧ upstream.upstreamJobOk = true ∧
      upstream.parseErrors.getD [] = [] ∧
      (results.map ShardResult.workload).Perm
        (expected.map ExpectedShard.name) ∧
      (∀ result ∈ results, result.status = "success") ∧
      ∀ result ∈ results, ∀ entry ∈ expected,
        entry.name = result.workload →
          result.outcome = entry.expectedOutcome := by
  constructor
  · intro complete
    exact ⟨complete.discovery, complete.job, complete.parsed, complete.perm,
      complete.successful, complete.required⟩
  · intro good
    obtain ⟨discovery, job, parsed, same, successful, required⟩ := good
    refine { discovery, job, parsed, nonempty, distinct, successful, required,
             matched := ?_ }
    have apart := same.nodup_iff.mpr distinct
    have names : {name | ∃ result ∈ results, result.workload = name} =
        {name | ∃ entry ∈ expected, entry.name = name} := by
      ext name
      have here := same.mem_iff (a := name)
      rw [List.mem_map, List.mem_map] at here
      exact here
    rw [← names, ← image_eq]
    exact Set.InjOn.bijOn_image ((injective_iff results).mpr apart)

/-- Every file of the directory can be read, and its results of the stage are
the answers, one each and the required ones, to these entries. -/
structure Answered (stage : String) (entries : List Registry.Entry)
    (directory : Directory) : Prop where
  readable : ∀ file ∈ resultFiles directory, Readable stage file
  matched : ((resultsOf stage directory).map LoadedResult.workload).Perm
    (entries.map fun entry => .string entry.name)
  successful : ∀ result ∈ resultsOf stage directory,
    result.status = "success"
  required : ∀ result ∈ resultsOf stage directory, ∀ entry ∈ entries,
    result.workload = .string entry.name →
      result.outcome = requiredOutcome stage entry

end Aggregate
