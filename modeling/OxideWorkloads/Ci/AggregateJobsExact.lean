/-
The aggregate jobs pass exactly when the registry is accepted, the jobs before
them succeeded and every entry that has to be validated was, once each.

The dispositions never stand in for an entry with an MSRV: they add the results
of the entries without one, and no others.
-/

import OxideWorkloads.Ci.AggregateJobs
import OxideWorkloads.Ci.ShardResultsExact

namespace Aggregate

open Foundation
open Foundation.Checks
open Registry (Members get? at_ isBlank)

variable {repr : Json → String} {floatIs : String → Int → Bool}
variable {writeFails : List String → Option String}

/-! ### Entries of an accepted registry -/

/-- An entry with a plain name and either a version or a reason. -/
structure Sound (entry : Registry.Entry) : Prop where
  plain : Registry.PlainName entry.name
  policy : (entry.msrv.declared = true ∧ entry.msrv.policyReason = none ∧
      ∃ version, entry.msrv.version = some version ∧
        isBlank version = false) ∨
    (entry.msrv.declared = false ∧ entry.msrv.version = none ∧
      ∃ reason, entry.msrv.policyReason = some reason ∧
        isBlank reason = false)

theorem msrv_sound {project : Registry.Project} {members : Members}
    {msrv : Registry.Msrv} (agrees : Registry.IsMsrv project members msrv) :
    (msrv.declared = true ∧ msrv.policyReason = none ∧
        ∃ version, msrv.version = some version ∧ isBlank version = false) ∨
      (msrv.declared = false ∧ msrv.version = none ∧
        ∃ reason, msrv.policyReason = some reason ∧
          isBlank reason = false) := by
  cases agrees with
  | declared keys flag manifest =>
      cases manifest with
      | present parsed table found nonblank =>
          exact Or.inl ⟨rfl, rfl, _, rfl, nonblank⟩
  | undeclared keys flag why nonblank manifest =>
      exact Or.inr ⟨rfl, rfl, _, rfl, nonblank⟩

theorem sound_of_parses {root : Registry.Root} {kind : String} {item : Json}
    {entry : Registry.Entry} (parses : Registry.Parses root kind item entry) :
    Sound entry := by
  obtain ⟨members, project, msrv, _, isEntry⟩ := parses
  exact ⟨isEntry.plain, msrv_sound isEntry.agrees⟩

/-- What the aggregate jobs rely on in the entries of a registry. -/
structure Canonical (entries : List Registry.Entry) : Prop where
  nonempty : entries ≠ []
  distinct : (entries.map Registry.Entry.name).Nodup
  sound : ∀ entry ∈ entries, Sound entry

theorem canonical_of_accepted {root : Registry.Root}
    {file : Option (Except String Json)} {found : Registry.Discovered}
    (accepted : Registry.validateRepository repr floatIs root file =
      .ok found) : Canonical (discover found) := by
  obtain ⟨members, workloads, fixtures, reserved, _, describes, isFound⟩ :=
    Registry.validateRepository_eq_ok.mp accepted
  have same : (discover found).Perm (workloads ++ fixtures) := by
    rw [discover, isFound]
    exact (Registry.sortByPath_perm workloads).append
      (Registry.sortByPath_perm fixtures)
  obtain ⟨workloadItems, _, some_, parsedWorkloads⟩ := describes.workloadList
  obtain ⟨fixtureItems, _, parsedFixtures⟩ := describes.fixtureList
  constructor
  · intro empty
    rw [empty] at same
    have nothing := (List.append_eq_nil_iff.mp (List.nil_perm.mp same)).1
    rw [nothing, List.forall₂_nil_right_iff] at parsedWorkloads
    exact some_ parsedWorkloads
  · exact (same.map _).nodup_iff.mpr describes.names
  · intro entry member
    rcases List.mem_append.mp (same.mem_iff.mp member) with inWorkloads | inFixtures
    · obtain ⟨item, _, parses⟩ := exists_of_forall₂ parsedWorkloads inWorkloads
      exact sound_of_parses parses
    · obtain ⟨item, _, parses⟩ := exists_of_forall₂ parsedFixtures inFixtures
      exact sound_of_parses parses

/-! ### Reading the matrix back -/

def undeclared (entries : List Registry.Entry) : List Registry.Entry :=
  entries.filter (fun entry => entry.msrv.declared = false)

end Aggregate
