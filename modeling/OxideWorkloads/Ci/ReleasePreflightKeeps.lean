/-
What the parts of the release preflight keep: all but one of the calls start
nothing, so an invariant that survives these calls is kept by every part without
that call, however the part ends.
-/

import OxideWorkloads.Ci.ReleasePreflight

namespace ReleasePreflight

open Foundation
open Foundation.Checks
open Foundation.CrashRun
open Registry (Members at_ get?)

variable {forge : Forge} {py : Language} {kept : History → Prop}

/-! ### What the calls keep -/

def Call.isDispatch : Call → Bool
  | .dispatch _ => true
  | _ => false

/-- The invariant survives every call that starts nothing. -/
def Quiet (forge : Forge) (kept : History → Prop) : Prop :=
  ∀ call, call.isDispatch = false → Keeps kept (ask forge call)

theorem keeps_check {α : Type} (result : Except Failure α) :
    Keeps kept (check result) :=
  keeps_ofExcept result

theorem keeps_wrapping {α : Type} {kinds : List ErrorKind} {before : String}
    {program : Talk α} (first : Keeps kept program) :
    Keeps kept (wrapping kinds before program) := by
  refine keeps_bind (keeps_attempt first) ?_
  intro result
  cases result with
  | ok value => exact keeps_pure value
  | error failure => exact keeps_fail _

theorem keeps_api (quiet : Quiet forge kept) (path : Path) :
    Keeps kept (api forge py path) := by
  refine keeps_bind (quiet (.api path) rfl) ?_
  intro value
  exact keeps_check _

theorem keeps_ancestry (quiet : Quiet forge kept) (repo sha : String) :
    Keeps kept (ancestry forge py repo sha) := by
  refine keeps_bind (keeps_check _) ?_
  intro _
  refine keeps_bind (keeps_api quiet _) ?_
  intro ref
  refine keeps_bind (keeps_check _) ?_
  intro found
  refine keeps_bind (keeps_check _) ?_
  intro main
  refine keeps_bind (keeps_api quiet _) ?_
  intro compare
  refine keeps_bind (keeps_check _) ?_
  intro _
  exact keeps_pure main

theorem keeps_workflow (quiet : Quiet forge kept) :
    Keeps kept (workflow forge py) := by
  refine keeps_bind (keeps_api quiet _) ?_
  intro value
  refine keeps_bind (keeps_check _) ?_
  intro _
  exact keeps_pure value

theorem keeps_tree (quiet : Quiet forge kept) (sha : String) :
    Keeps kept (tree forge py sha) := by
  refine keeps_bind (keeps_api quiet _) ?_
  intro value
  refine keeps_bind (keeps_check _) ?_
  intro found
  refine keeps_bind (keeps_check _) ?_
  intro _
  exact keeps_check _

theorem keeps_pagesFrom (quiet : Quiet forge kept) {repo : String}
    {wf : Members} {event : String} {left page : Nat} :
    Keeps kept (pagesFrom forge py repo wf event left page) := by
  induction left generalizing page with
  | zero => exact keeps_fail _
  | succ left ih =>
      refine keeps_bind (keeps_api quiet _) ?_
      intro payload
      refine keeps_bind (keeps_check _) ?_
      intro rows
      refine keeps_bind (keeps_check _) ?_
      intro kept
      refine keeps_ite (keeps_pure _) ?_
      apply keeps_bind ih
      intro others
      exact keeps_pure _

theorem keeps_candidates (quiet : Quiet forge kept) {repo : String}
    {wf : Members} : Keeps kept (candidates forge py repo wf) := by
  refine keeps_bind (keeps_pagesFrom quiet) ?_
  intro dispatched
  refine keeps_bind (keeps_pagesFrom quiet) ?_
  intro scheduled
  exact keeps_check _

theorem keeps_metadata (quiet : Quiet forge kept) {repo sha : String}
    {wf run jobs artifacts : Members} {allowMissing : Bool} :
    Keeps kept (metadata forge py repo sha wf run jobs artifacts
      allowMissing) := by
  refine keeps_bind (keeps_check _) ?_
  intro _
  refine keeps_bind (keeps_check _) ?_
  intro created
  refine keeps_bind (quiet .utcNow rfl) ?_
  intro now
  refine keeps_bind (keeps_check _) ?_
  intro _
  refine keeps_bind (keeps_check _) ?_
  intro _
  refine keeps_bind (keeps_check _) ?_
  intro complete
  refine keeps_ite (keeps_pure _) ?_
  exact keeps_ite (keeps_pure _) (keeps_fail _)

theorem keeps_evidenceAvailable (quiet : Quiet forge kept)
    {repo sha : String} {wf : Members} {id : Json} :
    Keeps kept (evidenceAvailable forge py repo sha wf id) := by
  refine keeps_bind (keeps_api quiet _) ?_
  intro run
  refine keeps_bind (keeps_check _) ?_
  intro _
  refine keeps_bind (keeps_api quiet _) ?_
  intro jobs
  refine keeps_bind (keeps_api quiet _) ?_
  intro artifacts
  exact keeps_metadata quiet

theorem keeps_forEach {α : Type} {program : α → Talk Unit}
    (each : ∀ value, Keeps kept (program value)) (values : List α) :
    Keeps kept (CrashRun.forEach program values) := by
  induction values with
  | nil => exact keeps_pure ()
  | cons value rest ih =>
      refine keeps_bind (each value) ?_
      intro _
      exact ih

theorem keeps_inspectLanguage (quiet : Quiet forge kept) {repo sha : String}
    {id : Json} {run : Members} {candidateTree language : String} :
    Keeps kept (inspectLanguage forge py repo sha id run candidateTree
      language) := by
  refine keeps_bind (quiet (.download _ _) rfl) ?_
  intro _
  refine keeps_bind (quiet (.verdict _ _ _) rfl) ?_
  intro _
  refine keeps_bind (quiet (.download _ _) rfl) ?_
  intro files
  exact keeps_check _

theorem keeps_inspect (quiet : Quiet forge kept) {repo sha : String}
    {wf : Members} {id : Json} :
    Keeps kept (inspect forge py repo sha wf id) := by
  refine keeps_bind (keeps_api quiet _) ?_
  intro run
  refine keeps_bind (keeps_api quiet _) ?_
  intro jobs
  refine keeps_bind (keeps_api quiet _) ?_
  intro artifacts
  refine keeps_bind (keeps_metadata quiet) ?_
  intro _
  refine keeps_bind (keeps_tree quiet _) ?_
  intro candidateTree
  refine keeps_bind (keeps_forEach (fun _ => keeps_inspectLanguage quiet) _) ?_
  intro _
  refine keeps_bind (keeps_ancestry quiet _ _) ?_
  intro _
  exact keeps_pure ()

theorem keeps_reuse (quiet : Quiet forge kept) {repo sha : String}
    {wf : Members} {rows : List Members} {count : Nat} :
    Keeps kept (reuse forge py repo sha wf rows count) := by
  induction rows generalizing count with
  | nil => exact keeps_pure count
  | cons existing rest ih =>
      refine keeps_bind (keeps_check _) ?_
      intro id
      apply keeps_bind
      · apply keeps_wrapping
        refine keeps_bind (keeps_evidenceAvailable quiet) ?_
        intro available
        apply keeps_ite
        · refine keeps_bind (keeps_inspect quiet) ?_
          intro _
          exact keeps_pure true
        · exact keeps_pure false
      · intro available
        exact ih

theorem keeps_prepare (quiet : Quiet forge kept) {token : Bool}
    {repo sha : String} : Keeps kept (prepare forge py token repo sha) := by
  refine keeps_bind (keeps_check _) ?_
  intro _
  refine keeps_bind (keeps_ancestry quiet _ _) ?_
  intro _
  refine keeps_bind (keeps_workflow quiet) ?_
  intro wf
  refine keeps_bind (keeps_candidates quiet) ?_
  intro allRuns
  refine keeps_bind (keeps_check _) ?_
  intro _
  apply keeps_bind
  · unfold planFor
    split
    · refine keeps_bind (keeps_check _) ?_
      intro id
      exact keeps_pure _
    · refine keeps_bind (keeps_reuse quiet) ?_
      intro count
      exact keeps_pure _
  · intro plan
    exact keeps_pure _

theorem keeps_poll (quiet : Quiet forge kept) {repo sha : String}
    {wf : Members} {before : List Int} {selected : Json} :
    Keeps kept (poll forge py repo sha wf before selected) := by
  refine keeps_bind (keeps_ancestry quiet _ _) ?_
  intro _
  refine keeps_bind (keeps_candidates quiet) ?_
  intro rows
  refine keeps_bind (keeps_check _) ?_
  intro _
  refine keeps_bind (keeps_check _) ?_
  intro now
  refine keeps_ite (keeps_pure _) ?_
  refine keeps_bind (keeps_wrapping (keeps_api quiet _)) ?_
  intro state
  refine keeps_bind (keeps_check _) ?_
  intro _
  refine keeps_bind (keeps_check _) ?_
  intro _
  apply keeps_ite
  · refine keeps_bind (keeps_check _) ?_
    intro _
    refine keeps_bind (keeps_inspect quiet) ?_
    intro _
    exact keeps_pure _
  · exact keeps_pure _

theorem keeps_wait (quiet : Quiet forge kept) {repo sha : String}
    {wf : Members} {before : List Int} {deadline : Int}
    {pollSeconds fuel : Nat} {selected : Json} :
    Keeps kept (wait forge py repo sha wf before deadline pollSeconds fuel
      selected) := by
  induction fuel generalizing selected with
  | zero => exact keeps_kill
  | succ fuel ih =>
      refine keeps_bind (quiet .monotonic rfl) ?_
      intro now
      apply keeps_ite
      · refine keeps_bind (keeps_poll quiet) ?_
        intro result
        refine keeps_ite (keeps_pure _) ?_
        refine keeps_bind (quiet (.sleep _) rfl) ?_
        intro _
        exact ih
      · exact keeps_fail _

theorem keeps_await (quiet : Quiet forge kept) {repo sha : String}
    {wf : Members} {before : List Int} {timeoutSeconds pollSeconds fuel : Nat}
    {selected : Json} :
    Keeps kept (await forge py repo sha wf before timeoutSeconds pollSeconds
      fuel selected) := by
  refine keeps_bind (quiet .monotonic rfl) ?_
  intro now
  exact keeps_wait quiet

end ReleasePreflight
