/-
The reports of the two audits, and their issues over whole lives of the
repository: runs of both audits with their calls in any order, failures, and
whatever others do to the issues.

The body of a report contains the marker of its audit.  It contains the marker
of the other one only if what is reported does.
-/

import OxideWorkloads.Ci.AuditIssueSettled
import OxideWorkloads.Foundation.Checks
import OxideWorkloads.Foundation.Embedded
import OxideWorkloads.Foundation.Json

namespace AuditIssue

open Foundation
open Foundation.Checks
open Foundation.Embedded (join)

inductive Auditor where
  | supplyChain
  | hardeningDrift
  deriving DecidableEq

/-! ### The supply-chain audit -/

namespace SupplyChain

def marker : String := "<!-- oxide-batch-workloads:supply-chain-audit -->"

def title : String := "[supply-chain-audit] scheduled audit requires attention"

def labels : List String := ["type:security", "area:security", "dependencies"]

def classifications : List String :=
  ["clean", "policy-finding", "infrastructure-failure"]

structure Audit where
  classification : String
  workloads : List String
  details : String

/-- The first characters of a text. -/
def cut (count : Nat) (text : String) : String :=
  String.ofList (text.toList.take count)

/-- The last paragraph. -/
def ownedNote : String :=
  "This issue is owned by the scheduled supply-chain audit. " ++
    ("Repeated non-clean runs update/reopen this same issue; " ++
      "a later clean run adds a recovery comment and closes it.\n")

def renderBody (audit : Audit) (runUrl : String) : String :=
  marker ++ ("\n## Scheduled supply-chain audit\n\n**Classification:** `" ++
    (audit.classification ++ ("`\n\n**Scanned workloads:** " ++
    ((if audit.workloads = [] then "(none)"
      else join ", " audit.workloads) ++
    ("\n\n**Workflow run:** " ++ (runUrl ++ ("\n\n### Details\n\n```text\n" ++
    (cut 50000 audit.details ++ ("\n```\n\n" ++ ownedNote)))))))))

end SupplyChain

/-! ### The hardening drift audit -/

namespace HardeningDrift

def marker : String := "<!-- oxide-batch-workloads:hardening-drift-audit -->"

def title : String :=
  "[hardening-drift] repository hardening audit requires attention"

def labels : List String :=
  ["type:task", "area:governance", "area:security", "area:ci"]

def classifications : List String :=
  ["clean", "policy-drift", "infrastructure-failure"]

structure Audit where
  classification : String
  policyFindings : Json
  infrastructureFailures : Json
  manualReadback : Json

/-- The note above the controls that are read by hand. -/
def manualNote : String :=
  "These controls are canonical but are not claimed as " ++
    "continuously monitored by the low-privilege scheduled audit."

/-- The last paragraph. -/
def ownedNote : String :=
  "This issue is owned by the recurring hardening drift audit. " ++
    ("Repeated non-clean runs update/reopen this same issue; " ++
      "a later clean run records recovery and closes it.")

/-- The body; `dumps` writes a document with an indent of two. -/
def renderBody (dumps : Json → String) (audit : Audit) (runUrl : String) :
    String :=
  join "\n" [marker, "## Repository hardening drift audit", "",
    "**Classification:** `" ++ (audit.classification ++ "`"), "",
    "**Workflow run:** " ++ runUrl, "", "### Confirmed policy drift", "",
    "```json", SupplyChain.cut 40000 (dumps audit.policyFindings), "```", "",
    "### Infrastructure/readback failures", "", "```json",
    SupplyChain.cut 20000 (dumps audit.infrastructureFailures), "```", "",
    "### Explicit manual-readback controls", "",
    manualNote,
    "", "```json", SupplyChain.cut 20000 (dumps audit.manualReadback), "```",
    "",
    ownedNote] ++ "\n"

end HardeningDrift

/-! ### A report -/

/-- The result of an audit that is reported. -/
inductive Report where
  | supplyChain (audit : SupplyChain.Audit)
  | hardeningDrift (audit : HardeningDrift.Audit)

def Report.auditor : Report → Auditor
  | .supplyChain _ => .supplyChain
  | .hardeningDrift _ => .hardeningDrift

def Report.classification : Report → String
  | .supplyChain audit => audit.classification
  | .hardeningDrift audit => audit.classification

def Auditor.marker : Auditor → String
  | .supplyChain => SupplyChain.marker
  | .hardeningDrift => HardeningDrift.marker

def Auditor.ownerName : Auditor → String
  | .supplyChain => "supply-chain audit"
  | .hardeningDrift => "hardening drift audit"

def Auditor.title : Auditor → String
  | .supplyChain => SupplyChain.title
  | .hardeningDrift => HardeningDrift.title

def Auditor.labels : Auditor → List String
  | .supplyChain => SupplyChain.labels
  | .hardeningDrift => HardeningDrift.labels

def Auditor.classifications : Auditor → List String
  | .supplyChain => SupplyChain.classifications
  | .hardeningDrift => HardeningDrift.classifications

def Auditor.labelsOf : Auditor → String
  | .supplyChain => "scheduled audit"
  | .hardeningDrift => "hardening audit"

/-- The labels have to be in the taxonomy. -/
def validateReportingLabels (auditor : Auditor) (known : List String) :
    Except String Unit :=
  let missing := ((auditor.labels.filter (fun label => label ∉ known)).dedup
    ).mergeSort
  ensure (missing = []) (auditor.labelsOf ++
    " reporting labels are missing from canonical taxonomy: " ++
      join ", " missing)

section

variable (quote : String → String) (dumps : Json → String)

def Report.body (runUrl : String) : Report → String
  | .supplyChain audit => SupplyChain.renderBody audit runUrl
  | .hardeningDrift audit => HardeningDrift.renderBody dumps audit runUrl

/-- The request of a report; `quote` is how an error shows a text. -/
def Report.reconcileIssue (runUrl : String) (report : Report) :
    Except String ReconcileRequest := do
  ensure (report.classification ∈ report.auditor.classifications)
    ("unsupported audit classification: " ++ quote report.classification)
  return {
    marker := report.auditor.marker
    ownerName := report.auditor.ownerName
    title := report.auditor.title
    labels := report.auditor.labels
    classification := report.classification
    cleanClassification := "clean"
    body := report.body dumps runUrl
    runUrl }

/-- The reporting program up to its first call. -/
def Report.main (known : List String) (runUrl : String) (report : Report) :
    Except String ReconcileRequest := do
  validateReportingLabels report.auditor known
  report.reconcileIssue quote dumps runUrl

end

/-! ### Markers in bodies -/

/-- The texts that a report takes over. -/
def Report.texts (dumps : Json → String) (runUrl : String) :
    Report → List String
  | .supplyChain audit => runUrl :: audit.details :: audit.workloads
  | .hardeningDrift audit =>
      [runUrl, dumps audit.policyFindings, dumps audit.infrastructureFailures,
        dumps audit.manualReadback]

/-- No text of the report contains the marker of the other audit. -/
def Report.Clear (dumps : Json → String) (runUrl : String) (report : Report) :
    Prop :=
  ∀ text ∈ report.texts dumps runUrl, ∀ other, other ≠ report.auditor →
    ¬other.marker.toList <:+: text.toList

theorem of_cut {phrase : List Char} {count : Nat} {text : String}
    (inside : phrase <:+: (SupplyChain.cut count text).toList) :
    phrase <:+: text.toList := by
  unfold SupplyChain.cut at inside
  rw [String.toList_ofList] at inside
  exact inside.trans (List.take_prefix count text.toList).isInfix

open Foundation.Embedded (not_infix_of_passes of_join of_parts of_parts_last
  of_passes parts parts_append passes passes_append)

theorem supplyChain_texts {audit : SupplyChain.Audit} {runUrl : String}
    {dumps : Json → String}
    (known : audit.classification ∈ SupplyChain.classifications)
    (inside : HardeningDrift.marker.toList <:+:
      (SupplyChain.renderBody audit runUrl).toList) :
    ∃ text ∈ (Report.supplyChain audit).texts dumps runUrl,
      HardeningDrift.marker.toList <:+: text.toList := by
  have nonempty : HardeningDrift.marker.toList ≠ [] := by decide
  have plain : ∀ text ∈ "(none)" :: SupplyChain.classifications,
      passes HardeningDrift.marker.toList text.toList = true := by decide
  unfold SupplyChain.renderBody at inside
  simp only [String.toList_append] at inside
  rcases of_parts (by decide) inside with inMarker | inside
  · exact absurd inMarker (by decide)
  rcases of_parts (by decide) inside with inClass | inside
  · exact absurd inClass (not_infix_of_passes
      (plain _ (List.mem_cons_of_mem _ known)))
  rcases of_parts (by decide) inside with inWorkloads | inside
  · by_cases empty : audit.workloads = []
    · rw [if_pos empty] at inWorkloads
      exact absurd inWorkloads (not_infix_of_passes
        (plain _ List.mem_cons_self))
    · rw [if_neg empty] at inWorkloads
      obtain ⟨text, member, found⟩ := of_join nonempty (by decide) inWorkloads
      exact ⟨text, List.mem_cons_of_mem _ (List.mem_cons_of_mem _ member),
        found⟩
  rcases of_parts (by decide) inside with inUrl | inside
  · exact ⟨runUrl, List.mem_cons_self, inUrl⟩
  have note : parts HardeningDrift.marker.toList ("\n```\n\n".toList ++
      SupplyChain.ownedNote.toList) = true := by
    unfold SupplyChain.ownedNote
    rw [String.toList_append, String.toList_append]
    exact parts_append (by decide) (passes_append (by decide)
      (passes_append (by decide) (by decide)))
  have inDetails := of_parts_last nonempty note inside
  exact ⟨audit.details, List.mem_cons_of_mem _ List.mem_cons_self,
    of_cut inDetails⟩

theorem hardeningDrift_texts {audit : HardeningDrift.Audit} {runUrl : String}
    {dumps : Json → String}
    (known : audit.classification ∈ HardeningDrift.classifications)
    (inside : SupplyChain.marker.toList <:+:
      (HardeningDrift.renderBody dumps audit runUrl).toList) :
    ∃ text ∈ (Report.hardeningDrift audit).texts dumps runUrl,
      SupplyChain.marker.toList <:+: text.toList := by
  have nonempty : SupplyChain.marker.toList ≠ [] := by decide
  have plain : ∀ text ∈ HardeningDrift.classifications,
      passes SupplyChain.marker.toList text.toList = true := by decide
  unfold HardeningDrift.renderBody at inside
  rw [String.toList_append] at inside
  obtain ⟨line, member, found⟩ := of_join nonempty (by decide)
    (of_parts_last nonempty (by decide) inside)
  have fixed : ∀ text : String,
      passes SupplyChain.marker.toList text.toList = true → line ≠ text := by
    intro text passed same
    rw [same] at found
    exact not_infix_of_passes passed found
  have owned : passes SupplyChain.marker.toList
      HardeningDrift.ownedNote.toList = true := by
    unfold HardeningDrift.ownedNote
    rw [String.toList_append, String.toList_append]
    exact passes_append (by decide) (passes_append (by decide) (by decide))
  have manual : passes SupplyChain.marker.toList
      HardeningDrift.manualNote.toList = true := by
    unfold HardeningDrift.manualNote
    rw [String.toList_append]
    exact passes_append (by decide) (by decide)
  simp only [List.mem_cons, List.not_mem_nil, or_false] at member
  rcases member with isMarker | same | same | classLine | same | urlLine |
    same | same | same | same | findings | same | same | same | same | same |
    failures | same | same | same | same | note | same | same | controls |
    same | same | last
  all_goals try exact absurd same (fixed _ (by decide))
  · rw [isMarker] at found
    exact absurd found (by decide)
  · rw [classLine, String.toList_append, String.toList_append] at found
    have inClass := of_parts_last nonempty (by decide)
      (of_passes (by decide) found)
    exact absurd inClass (not_infix_of_passes (plain _ known))
  · rw [urlLine, String.toList_append] at found
    exact ⟨runUrl, List.mem_cons_self, of_passes (by decide) found⟩
  · rw [findings] at found
    exact ⟨_, List.mem_cons_of_mem _ List.mem_cons_self, of_cut found⟩
  · rw [failures] at found
    exact ⟨_, List.mem_cons_of_mem _ (List.mem_cons_of_mem _
      List.mem_cons_self), of_cut found⟩
  · exact absurd note (fixed _ manual)
  · rw [controls] at found
    exact ⟨_, List.mem_cons_of_mem _ (List.mem_cons_of_mem _
      (List.mem_cons_of_mem _ List.mem_cons_self)), of_cut found⟩
  · exact absurd last (fixed _ owned)

end AuditIssue
