/-
The shards of a workflow run and the three authorities over them.

A shard that records the exit code of its contract uploads one artifact; a
shard that was cancelled, or never reached that step, uploads none.  The
supply-chain authority scans the real workloads itself.
-/

import OxideWorkloads.Ci.AggregateJobsExact

namespace Aggregate

open Foundation
open Foundation.Checks

variable {repr : Json → String} {floatIs : String → Int → Bool}
variable {writeFails : List String → Option String}

/-! ### Uploads -/

/-- The artifact of a shard whose contract ended with an exit code. -/
def shardArtifact (stage name : String) (exitCode : Int) :
    Except String Artifact := do
  let result ← buildResult name stage (some exitCode) false none
  return {
    suffix := name
    files := [{ path := ["result.json"], content := .document (.object result) }] }

/-- An entry with the exit code its shard recorded. -/
def recorded (entries : List Registry.Entry)
    (exitCode : String → Option Int) : List (String × Int) :=
  entries.filterMap (fun entry =>
    (exitCode entry.name).map (fun code => (entry.name, code)))

def recordedFile (stage : String) (shard : String × Int) : ResultFile :=
  { path := [s!"result-{stage}-{shard.1}", "result.json"]
    content := .document (.object [
      ("workload", .string shard.1), ("stage", .string stage),
      ("status", .string (if shard.2 = 0 then "success" else "failure")),
      ("outcome", .string "validated"), ("exit_code", .integer shard.2)]) }

theorem shardArtifact_eq (stage name : String) (exitCode : Int) :
    (shardArtifact stage name exitCode).map
        (Artifact.downloaded stage) =
      .ok [recordedFile stage (name, exitCode)] :=
  rfl

theorem runAll_eq_nil {scan : String → Except String Int}
    {names : List String} :
    runAll scan names = [] ↔ ∀ name ∈ names, scan name = .ok 0 := by
  rw [runAll, List.filterMap_eq_nil_iff]
  refine forall₂_congr ?_
  intro name _
  cases scan name with
  | error error => simp
  | ok exitCode => simp

theorem discoveryName_entry {entry : Registry.Entry}
    (nonempty : entry.name ≠ "") :
    discoveryName (.object (entryDocument entry)) = .ok entry.name := by
  simp only [discoveryName, entry_name, bind_eq_ok, require_eq_ok,
    ensure_eq_ok, pure_eq_ok, exists_const]
  exact ⟨entry.name, rfl, nonempty, rfl⟩

/-- The real workloads are scanned exactly if discovery projects them, as the
registry has them. -/
theorem verifyDiscoveryContract_matrix {entries : List Registry.Entry}
    {found : Registry.Discovered} (canonical : Canonical (discover found))
    (isWorkloads : entries = found.workloads) (nonempty : entries ≠ []) :
    verifyDiscoveryContract repr (.ok found) (.ok (matrixDocument entries)) =
      .ok (entries.map Registry.Entry.name) := by
  have distinct : (entries.map Registry.Entry.name).Nodup := by
    have both := canonical.distinct
    rw [discover, List.map_append, List.nodup_append] at both
    rw [isWorkloads]
    exact both.1
  have named : ∀ entry ∈ entries, entry.name ≠ "" := by
    intro entry member
    rw [isWorkloads] at member
    exact (canonical.sound entry (List.mem_append_left _ member)).plain.nonempty
  have names : (entries.map fun entry =>
      Json.object (entryDocument entry)).mapM discoveryName =
      .ok (entries.map Registry.Entry.name) := by
    rw [mapM_eq_ok, List.forall₂_map_left_iff, List.forall₂_map_right_iff]
    exact List.forall₂_same.mpr (fun entry member =>
      discoveryName_entry (named entry member))
  have some_ : (entries.map fun entry =>
      Json.object (entryDocument entry)) ≠ [] :=
    fun empty => nonempty (List.map_eq_nil_iff.mp empty)
  have alsoSome : entries.map Registry.Entry.name ≠ [] :=
    fun empty => nonempty (List.map_eq_nil_iff.mp empty)
  simp only [verifyDiscoveryContract, parseDiscoveryJson,
    canonicalRealWorkloads, verifyDiscoveryNames, includeOf_matrix,
    bind_eq_ok, require_eq_ok, ensure_eq_ok, pure_eq_ok, exists_const]
  rw [← isWorkloads]
  exact ⟨_, ⟨_, rfl, some_, _, names, distinct, rfl⟩, _, ⟨alsoSome, rfl⟩,
    rfl, rfl⟩

/-- An accepted registry has a workload. -/
theorem workloads_nonempty {root : Registry.Root}
    {file : Option (Except String Json)} {found : Registry.Discovered}
    (accepted : Registry.validateRepository repr floatIs root file =
      .ok found) : found.workloads ≠ [] := by
  obtain ⟨members, workloads, fixtures, reserved, _, describes, isFound⟩ :=
    Registry.validateRepository_eq_ok.mp accepted
  obtain ⟨items, _, some_, parsed⟩ := describes.workloadList
  intro empty
  have same := Registry.sortByPath_perm workloads
  rw [isFound] at empty
  dsimp only at empty
  rw [empty] at same
  rw [List.nil_perm.mp same, List.forall₂_nil_right_iff] at parsed
  exact some_ parsed

theorem discoverSupplyChainWorkloads_matrix {found : Registry.Discovered}
    (nonempty : found.workloads ≠ []) :
    discoverSupplyChainWorkloads (.ok found) =
      .ok (matrixDocument found.workloads) := by
  rw [discoverSupplyChainWorkloads, ok_bind, ensure,
    if_pos (by exact nonempty)]
  rfl

theorem supplyChainJob_passes {root : Registry.Root}
    {file : Option (Except String Json)}
    {scan : String → Except String Int} :
    supplyChainJobPasses repr
        (Registry.validateRepository repr floatIs root file)
        (discoverSupplyChainWorkloads
          (Registry.validateRepository repr floatIs root file)) scan = true ↔
      ∃ found, Registry.validateRepository repr floatIs root file =
          .ok found ∧
        ∀ entry ∈ found.workloads, scan entry.name = .ok 0 := by
  cases accepted : Registry.validateRepository repr floatIs root file with
  | error error =>
      simp [supplyChainJobPasses, verifyDiscoveryContract,
        discoverSupplyChainWorkloads, parseDiscoveryJson]
  | ok found =>
      have canonical := canonical_of_accepted accepted
      have nonempty := workloads_nonempty accepted
      rw [supplyChainJobPasses, discoverSupplyChainWorkloads_matrix nonempty,
        verifyDiscoveryContract_matrix canonical rfl nonempty]
      dsimp only
      rw [decide_eq_true_eq, runAll_eq_nil, List.forall_mem_map]
      simp only [Except.ok.injEq, exists_eq_left']

/-! ### The authorities of a run -/

end Aggregate
