/-
The issues of the two audits over whole lives of the repository.
-/

import OxideWorkloads.Ci.AuditReports

namespace AuditIssue

open Foundation
open Foundation.Checks

section

variable {quote : String → String} {dumps : Json → String}
variable {known : List String} {runUrl : String} {report : Report}
variable {request : ReconcileRequest}

theorem main_eq_ok
    (begun : report.main quote dumps known runUrl = .ok request) :
    report.classification ∈ report.auditor.classifications ∧
      request = {
        marker := report.auditor.marker
        ownerName := report.auditor.ownerName
        title := report.auditor.title
        labels := report.auditor.labels
        classification := report.classification
        cleanClassification := "clean"
        body := report.body dumps runUrl
        runUrl } := by
  unfold Report.main Report.reconcileIssue at begun
  simp only [bind_eq_ok, ensure_eq_ok, pure_eq_ok, exists_const] at begun
  obtain ⟨_, _, classified, isRequest⟩ := begun
  exact ⟨classified, isRequest.symm⟩

theorem body_marked (dumps : Json → String) (runUrl : String)
    (report : Report) :
    report.auditor.marker.toList <:+: (report.body dumps runUrl).toList := by
  cases report with
  | supplyChain audit =>
      change SupplyChain.marker.toList <:+:
        (SupplyChain.renderBody audit runUrl).toList
      unfold SupplyChain.renderBody
      rw [String.toList_append]
      exact (List.prefix_append _ _).isInfix
  | hardeningDrift audit =>
      change HardeningDrift.marker.toList <:+:
        (HardeningDrift.renderBody dumps audit runUrl).toList
      unfold HardeningDrift.renderBody
      rw [String.toList_append, Embedded.join, String.toList_append,
        List.append_assoc]
      · exact (List.prefix_append _ _).isInfix
      · exact List.cons_ne_nil _ _

/-- The request of a report is one of its audit. -/
theorem Report.proper
    (begun : report.main quote dumps known runUrl = .ok request)
    (clear : report.Clear dumps runUrl) :
    Proper Auditor.marker report.auditor request := by
  obtain ⟨classified, isRequest⟩ := main_eq_ok begun
  rw [isRequest]
  constructor
  · rfl
  · exact body_marked dumps runUrl report
  · intro other inside
    by_contra different
    cases report with
    | supplyChain audit =>
        cases other with
        | supplyChain => exact different rfl
        | hardeningDrift =>
            obtain ⟨text, member, found⟩ :=
              supplyChain_texts classified inside
            exact clear text member .hardeningDrift different found
    | hardeningDrift audit =>
        cases other with
        | supplyChain =>
            obtain ⟨text, member, found⟩ :=
              hardeningDrift_texts classified inside
            exact clear text member .supplyChain different found
        | hardeningDrift => exact different rfl

end

/-! ### Lives -/

section

variable (quote : String → String) (dumps : Json → String)
  (known : List String)

/-- Others keep away from the markers; a run starts with a report that contains
no marker of the other audit. -/
def Lawful (system : System Auditor) : Event Auditor → Prop
  | .start audit request =>
      ∃ (report : Report) (runUrl : String), report.auditor = audit ∧
        report.Clear dumps runUrl ∧
        report.main quote dumps known runUrl = .ok request
  | event => Allowed Auditor.marker system event

end

variable {service : Service} {quote : String → String} {dumps : Json → String}
variable {known : List String} {system : System Auditor}

theorem Lawful.allowed {event : Event Auditor}
    (lawful : Lawful quote dumps known system event) :
    Allowed Auditor.marker system event := by
  cases event with
  | file gap content => exact lawful
  | edit number change => exact lawful
  | start audit request =>
      obtain ⟨report, runUrl, same, clear, begun⟩ := lawful
      rw [← same]
      exact report.proper begun clear
  | answered audit moment => trivial
  | unanswered audit moment => trivial
  | lost audit => trivial

/-- However the calls of the two audits, their failures and the changes by
others interleave, there is at any moment at most one issue with the marker of
each audit; and an issue that no audit has marked or taken up by some moment is
from then on as the others alone make it. -/
theorem audits_own_one {before after : List (Event Auditor)}
    (documented : Documented service) (quiet : Quiet Auditor.marker system)
    (lawful : Along service (Lawful quote dumps known) (before ++ after)
      system) :
    (∀ audit first second,
      (system.run service before).tracker.Marked Auditor.marker audit first →
        (system.run service before).tracker.Marked Auditor.marker audit
          second → first = second) ∧
      ∀ number ∈ (system.run service before).tracker.numbers,
        (∀ audit, ¬(system.run service before).Claims Auditor.marker audit
          number) →
          (system.run service (before ++ after)).tracker.get? number =
            ((system.run service before).run service (after.filter
              (fun event => event.actor.isNone))).tracker.get? number := by
  have allowed := lawful.mono (fun _ _ => Lawful.allowed)
  obtain ⟨early, late⟩ := allowed.split
  have sound := quiet.sound.run documented early
  refine ⟨sound.unique, ?_⟩
  intro number member unclaimed
  rw [run_append]
  exact unclaimed_run documented sound late member unclaimed rfl

/-- A repository without issues. -/
def noIssues : System Auditor :=
  { tracker := { issues := [], newestFirst := List.Pairwise.nil }
    runs := fun _ => none }

theorem noIssues_quiet : Quiet Auditor.marker noIssues where
  still := fun _ => rfl
  unique := by
    intro audit first second marked
    obtain ⟨content, found, _⟩ := marked
    cases found
  apart := by
    intro number audit other marked
    obtain ⟨content, found, _⟩ := marked
    cases found

def finding : Report :=
  .supplyChain
    { classification := "policy-finding"
      workloads := ["postgres-local-partition"]
      details := "advisories FAILED" }

def recoveredAudit : SupplyChain.Audit :=
  { classification := "clean"
    workloads := ["postgres-local-partition"]
    details := "all registered real workload graphs passed " ++
      "the canonical supply-chain policy" }

def recovered : Report := .supplyChain recoveredAudit

def findingRequest : ReconcileRequest :=
  { marker := SupplyChain.marker
    ownerName := "supply-chain audit"
    title := SupplyChain.title
    labels := SupplyChain.labels
    classification := "policy-finding"
    cleanClassification := "clean"
    body := finding.body (fun _ => "") "run 7"
    runUrl := "run 7" }

def recoveredRequest : ReconcileRequest :=
  { findingRequest with
    classification := "clean"
    body := recovered.body (fun _ => "") "run 8"
    runUrl := "run 8" }

theorem supplyChain_labels :
    validateReportingLabels .supplyChain SupplyChain.labels = .ok () := by
  have all : SupplyChain.labels.filter
      (fun label => label ∉ SupplyChain.labels) = [] := by decide
  have blank : ([] : List String).dedup = [] := rfl
  unfold validateReportingLabels
  simp only [Auditor.labels, all, blank, List.mergeSort_nil]
  rfl

theorem finding_begun :
    finding.main id (fun _ => "") SupplyChain.labels "run 7" =
      .ok findingRequest := by
  change (do
    validateReportingLabels .supplyChain SupplyChain.labels
    finding.reconcileIssue id (fun _ => "") "run 7") = _
  rw [supplyChain_labels]
  rfl

theorem recovered_begun :
    recovered.main id (fun _ => "") SupplyChain.labels "run 8" =
      .ok recoveredRequest := by
  change (do
    validateReportingLabels .supplyChain SupplyChain.labels
    recovered.reconcileIssue id (fun _ => "") "run 8") = _
  rw [supplyChain_labels]
  rfl

theorem finding_clear : finding.Clear (fun _ => "") "run 7" := by
  intro text member other different
  cases other with
  | supplyChain => exact absurd rfl different
  | hardeningDrift =>
      revert text
      decide

theorem recovered_clear : recovered.Clear (fun _ => "") "run 8" := by
  intro text member other different
  cases other with
  | supplyChain => exact absurd rfl different
  | hardeningDrift =>
      revert text
      decide +kernel

theorem comment_fits {request : ReconcileRequest}
    (classification : request.classification.length ≤ 100)
    (runUrl : request.runUrl.length ≤ 100) (phase : Phase) (number : Nat)
    (text : String) (calls : request.call phase = some (.comment number text)) :
    text.length ≤ 65536 := by
  have recovery : "Audit recovered to clean. Run: ".length = 31 := rfl
  have remains :
      "Audit remains non-clean with classification `".length = 45 := rfl
  have link : "`. Run: ".length = 8 := rfl
  cases phase with
  | recovering other =>
      cases calls
      rw [String.length_append, recovery]
      omega
  | remaining other =>
      cases calls
      rw [String.length_append, String.length_append, String.length_append,
        remains, link]
      omega
  | finding page found => cases calls
  | closing other => cases calls
  | creating => cases calls
  | updating owned => cases calls
  | ended result => cases calls

theorem finding_fits : findingRequest.Fits 65536 where
  body := by
    change (SupplyChain.renderBody _ _).length ≤ 65536
    unfold SupplyChain.renderBody SupplyChain.ownedNote
    simp only [String.length_append]
    decide +kernel
  comments := comment_fits (by decide) (by decide)

theorem recovered_fits : recoveredRequest.Fits 65536 where
  body := by
    change (SupplyChain.renderBody _ _).length ≤ 65536
    unfold SupplyChain.renderBody SupplyChain.ownedNote
    simp only [String.length_append]
    decide +kernel
  comments := comment_fits (by decide) (by decide)

def question : Content :=
  newIssue "question" "how are the workloads run?" []

/-- Somebody files an issue, and an audit with a finding looks for its own. -/
def asked : List (Event Auditor) :=
  [.file 0 question, .start .supplyChain findingRequest,
    .answered .supplyChain 0]

/-- The audit creates its issue, and somebody answers the question. -/
def replied : List (Event Auditor) :=
  [.answered .supplyChain 1, .edit 1 (Content.addComment "see the guide")]

theorem question_unmarked (audit : Auditor) :
    ¬question.Bears audit.marker := by
  cases audit with
  | supplyChain => decide
  | hardeningDrift => decide

theorem asked_replied_lawful :
    Along (willingService 65536)
      (Lawful id (fun _ => "") SupplyChain.labels) (asked ++ replied)
        noIssues := by
  refine ⟨question_unmarked,
    ⟨finding, "run 7", rfl, finding_clear, finding_begun⟩, trivial, trivial,
    ?_, trivial⟩
  intro content _
  exact ⟨rfl, fun _ bears => bears⟩

theorem asked_run :
    (noIssues.run (willingService 65536) asked).runs .supplyChain =
      some { request := findingRequest, phase := .creating } := by
  rfl

theorem question_unclaimed (audit : Auditor) :
    ¬(noIssues.run (willingService 65536) asked).Claims Auditor.marker audit
      1 := by
  intro claims
  rcases claims with marked | going
  · obtain ⟨content, found, bears⟩ := marked
    have isQuestion : (noIssues.run (willingService 65536)
        asked).tracker.get? 1 = some question := rfl
    rw [isQuestion] at found
    rw [← Option.some.inj found] at bears
    exact question_unmarked audit bears
  · obtain ⟨run, isRun, refers⟩ := going
    cases audit with
    | supplyChain =>
        rw [asked_run] at isRun
        rw [← Option.some.inj isRun] at refers
        exact absurd refers List.not_mem_nil
    | hardeningDrift => cases isRun

/-- Before and after the audit has made its issue; the question is as it was
asked and answered. -/
theorem audits_own_one_asked :
    (∀ audit first second,
      (noIssues.run (willingService 65536) (asked ++ replied)).tracker.Marked
        Auditor.marker audit first →
        (noIssues.run (willingService 65536)
          (asked ++ replied)).tracker.Marked Auditor.marker audit second →
            first = second) ∧
      (noIssues.run (willingService 65536)
        (asked ++ replied)).tracker.get? 1 =
          some (question.addComment "see the guide") := by
  have whole : Along (willingService 65536)
      (Lawful id (fun _ => "") SupplyChain.labels) ((asked ++ replied) ++ [])
        noIssues := asked_replied_lawful
  have documented := willingService_documented 65536
  exact ⟨(audits_own_one documented noIssues_quiet whole).1,
    ((audits_own_one documented noIssues_quiet asked_replied_lawful).2 1
      List.mem_cons_self question_unclaimed).trans rfl⟩

/-- What the issues of an audit are like once a report has been reconciled. -/
def Reconciled (dumps : Json → String) (runUrl : String) (report : Report)
    (tracker : Tracker) : Prop :=
  if report.classification = "clean" then
    ∀ number content, tracker.get? number = some content →
      content.Bears report.auditor.marker → content.state = .closed
  else
    ∃ number content, tracker.get? number = some content ∧
      content.Bears report.auditor.marker ∧ content.state = .opened ∧
      content.title = report.auditor.title ∧
      content.body = some (report.body dumps runUrl) ∧
      content.labels = report.auditor.labels

theorem reconciled_of_settles {runUrl : String} {report : Report}
    {request : ReconcileRequest} {tracker : Tracker}
    (begun : report.main quote dumps known runUrl = .ok request)
    (settles : Settles Auditor.marker request tracker report.auditor) :
    Reconciled dumps runUrl report tracker := by
  obtain ⟨_, isRequest⟩ := main_eq_ok begun
  rw [isRequest] at settles
  unfold Settles ReconcileRequest.isClean at settles
  unfold Reconciled
  by_cases clean : report.classification = "clean"
  · rw [if_pos clean]
    rw [if_pos (decide_eq_true clean)] at settles
    exact settles
  · rw [if_neg clean]
    rw [if_neg (by rw [decide_eq_true_eq]; exact clean)] at settles
    exact settles

/-- A report whose run returned, at any time in such a life, has left the
issues of its audit as they have to be, as long as nobody else edited them
during that run: none open if the audit was clean, and otherwise one open
issue that shows the report. -/
theorem audit_reconciles {before events : List (Event Auditor)}
    {runUrl : String} {report : Report} {request : ReconcileRequest}
    {run : Run} {message : String} (documented : Documented service)
    (quiet : Quiet Auditor.marker system)
    (lawful : Along service (Lawful quote dumps known) before system)
    (begun : report.main quote dumps known runUrl = .ok request)
    (clear : report.Clear dumps runUrl)
    (idle : (system.run service before).idle report.auditor = true)
    (calm : Along service (fun system event =>
      Lawful quote dumps known system event ∧
        Calm Auditor.marker report.auditor system event) events
          ((system.run service before).step service
            (.start report.auditor request)))
    (isRun : (((system.run service before).step service
      (.start report.auditor request)).run service events).runs
        report.auditor = some run)
    (returned : run.phase = .ended (.ok message)) :
    Reconciled dumps runUrl report
      (((system.run service before).step service
        (.start report.auditor request)).run service events).tracker := by
  have sound := quiet.sound.run documented
    (lawful.mono (fun _ _ => Lawful.allowed))
  apply reconciled_of_settles begun
  exact returned_settles documented sound (report.proper begun clear) idle
    (calm.mono (fun _ _ parts => ⟨parts.1.allowed, parts.2⟩)) isRun returned

theorem calm_answers {audit : Auditor} {moments : List Nat} :
    Along service (fun system event => Allowed Auditor.marker system event ∧
      Calm Auditor.marker audit system event)
        (moments.map (Event.answered audit)) system := by
  induction moments generalizing system with
  | nil => trivial
  | cons moment rest ih => exact ⟨⟨trivial, trivial⟩, ih⟩

theorem created_step {longest moment : Nat} {audit : Auditor}
    {request : ReconcileRequest}
    (creating : system.runs audit = some { request, phase := .creating })
    (fits : request.body.length ≤ longest) :
    system.step (willingService longest) (.answered audit moment) =
      system.put audit (system.tracker.file 0 (newIssue request.title
        request.body request.labels))
        { request
          phase := .ended (.ok s!"created issue #{system.tracker.next}") } := by
  rw [System.step, System.serve, creating]
  dsimp only [ReconcileRequest.call]
  rw [willing_create fits]
  rfl

/-- The audit has read the issues, and somebody files a question. -/
def meanwhile : List (Event Auditor) :=
  [.answered .supplyChain 0, .file 3 question]

theorem meanwhile_creating :
    (((noIssues.run (willingService 65536) []).step (willingService 65536)
      (.start finding.auditor findingRequest)).run (willingService 65536)
        meanwhile).runs .supplyChain =
      some { request := findingRequest, phase := .creating } :=
  rfl

/-- While the audit reports what it found, somebody files a question. -/
theorem audit_reconciles_meanwhile :
    Reconciled (fun _ => "") "run 7" finding
      (((noIssues.run (willingService 65536) []).step (willingService 65536)
        (.start finding.auditor findingRequest)).run (willingService 65536)
          (meanwhile ++ [.answered .supplyChain 1])).tracker := by
  have created := @created_step _ 65536 1 .supplyChain findingRequest
    meanwhile_creating finding_fits.body
  have ends : (((noIssues.run (willingService 65536) []).step
      (willingService 65536) (.start finding.auditor findingRequest)).run
        (willingService 65536)
          (meanwhile ++ [.answered .supplyChain 1])).runs finding.auditor =
      some { request := findingRequest
             phase := .ended (.ok "created issue #5") } := by
    rw [run_snoc, created]
    rfl
  have lawful : Along (willingService 65536)
      (Lawful id (fun _ => "") SupplyChain.labels) [] noIssues := trivial
  exact audit_reconciles (willingService_documented 65536) noIssues_quiet
    lawful finding_begun finding_clear rfl
    ⟨⟨trivial, trivial⟩, ⟨question_unmarked, trivial⟩, ⟨trivial, trivial⟩,
      trivial⟩ ends rfl

/-- A report whose calls are answered without another event in between, none of
them with a refusal, is reconciled after a call for each hundred issues, and
three more at most. -/
theorem undisturbed_reconciles {before : List (Event Auditor)}
    {moments : List Nat} {runUrl : String} {report : Report}
    {request : ReconcileRequest} (documented : Documented service)
    (quiet : Quiet Auditor.marker system)
    (lawful : Along service (Lawful quote dumps known) before system)
    (begun : report.main quote dumps known runUrl = .ok request)
    (clear : report.Clear dumps runUrl)
    (idle : (system.run service before).idle report.auditor = true)
    (enough : (system.run service before).tracker.issues.length / perPage +
      3 ≤ moments.length)
    (granted : Along service (Granted service)
      (moments.map (Event.answered report.auditor))
        ((system.run service before).step service
          (.start report.auditor request))) :
    let final := ((system.run service before).step service
      (.start report.auditor request)).run service
        (moments.map (Event.answered report.auditor))
    (∃ message, final.runs report.auditor =
        some { request, phase := .ended (.ok message) }) ∧
      Reconciled dumps runUrl report final.tracker := by
  intro final
  have sound := quiet.sound.run documented
    (lawful.mono (fun _ _ => Lawful.allowed))
  have proper := report.proper begun clear
  obtain ⟨message, isRun⟩ := undisturbed_returns documented sound proper idle
    enough granted
  refine ⟨⟨message, isRun⟩, ?_⟩
  apply reconciled_of_settles begun
  exact returned_settles documented sound proper idle calm_answers isRun rfl

theorem replied_idle :
    (noIssues.run (willingService 65536) (asked ++ replied)).idle
      .supplyChain = true := by
  rw [run_append, replied, run_two, @created_step _ 65536 1 .supplyChain
    findingRequest asked_run finding_fits.body]
  rfl

theorem replied_enough :
    (noIssues.run (willingService 65536)
      (asked ++ replied)).tracker.issues.length / perPage + 3 ≤
        [2, 3, 4].length := by
  have two : (noIssues.run (willingService 65536)
      (asked ++ replied)).tracker.issues.length = 2 := by
    rw [run_append, replied, run_two, @created_step _ 65536 1 .supplyChain
      findingRequest asked_run finding_fits.body]
    rfl
  rw [two]
  decide

theorem replied_sound :
    Sound Auditor.marker
      (noIssues.run (willingService 65536) (asked ++ replied)) :=
  noIssues_quiet.sound.run (willingService_documented 65536)
    (asked_replied_lawful.mono (fun _ _ => Lawful.allowed))

theorem recovered_granted :
    Along (willingService 65536) (Granted (willingService 65536))
      ([2, 3, 4].map (Event.answered .supplyChain))
        ((noIssues.run (willingService 65536) (asked ++ replied)).step
          (willingService 65536) (.start .supplyChain recoveredRequest)) :=
  willing_granted recovered_fits (started (willingService_documented 65536)
    replied_sound (Report.proper recovered_begun recovered_clear)
      replied_idle)

/-- After the finding was reported the audit is clean again. -/
theorem undisturbed_reconciles_recovered :
    (∃ message, (((noIssues.run (willingService 65536) (asked ++ replied)).step
        (willingService 65536) (.start recovered.auditor recoveredRequest)).run
          (willingService 65536) ([2, 3, 4].map
            (Event.answered recovered.auditor))).runs recovered.auditor =
        some { request := recoveredRequest
               phase := .ended (.ok message) }) ∧
      Reconciled (fun _ => "") "run 8" recovered
        (((noIssues.run (willingService 65536) (asked ++ replied)).step
          (willingService 65536)
            (.start recovered.auditor recoveredRequest)).run
              (willingService 65536) ([2, 3, 4].map
                (Event.answered recovered.auditor))).tracker := by
  exact undisturbed_reconciles (willingService_documented 65536)
    noIssues_quiet asked_replied_lawful recovered_begun recovered_clear
    replied_idle replied_enough recovered_granted

end AuditIssue
