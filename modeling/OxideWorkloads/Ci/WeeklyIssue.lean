/-
The issue of the scheduled supply-chain audit and the supply-chain authority of
a pull request: over one registry and the same scans, the issue is closed
exactly if the authority would pass.

The authority calls the scan of a workload itself; the audit starts the
validator as a process, which exits with what its scan ended with.
-/

import OxideWorkloads.Ci.AuditLives
import OxideWorkloads.Ci.ScheduledAuditExact
import OxideWorkloads.Ci.ShardRuns

namespace ScheduledAudit

open Foundation
open Foundation.Checks
open Aggregate (Canonical canonical_of_accepted discover
  discoverSupplyChainWorkloads discoverSupplyChainWorkloads_matrix
  entryDocument matrixDocument supplyChainJobPasses supplyChainJob_passes
  workloads_nonempty)
open AuditIssue (Along Auditor Calm Documented Event Lawful Quiet
  ReconcileRequest Reconciled Report Run Service SupplyChain.Audit System
  returned_settles reconciled_of_settles)

/-- The status that the validator exits with.  A process keeps the last byte of
its exit code. -/
def exitStatus : Except String Int → Int
  | .ok exitCode => exitCode % 256
  | .error _ => 1

/-- The exit codes of processes: a byte, or the negative number of the signal
that ended one. -/
def ExitCodes (scan : String → Except String Int) : Prop :=
  ∀ name exitCode, scan name = .ok exitCode → -256 < exitCode ∧ exitCode < 256

/-- The discovery script has run. -/
def Prints (loads : String → Except String Json) (discovered : Completed) :
    Except String Json → Prop
  | .ok matrix =>
      discovered.returncode = 0 ∧ loads discovered.stdout = .ok matrix
  | .error _ => discovered.returncode ≠ 0

theorem exitStatus_eq_zero {scan : String → Except String Int}
    (codes : ExitCodes scan) {name : String} :
    exitStatus (scan name) = 0 ↔ scan name = .ok 0 := by
  cases ended : scan name with
  | error error => simp [exitStatus]
  | ok exitCode =>
      have range := codes name exitCode ended
      rw [exitStatus, Except.ok.injEq]
      omega

section

variable {isWord : Char → Bool} {loads : String → Except String Json}
variable {dumps repr : Json → String} {floatIs : String → Int → Bool}
variable {discovered : Completed} {audited : String → Completed}
variable {scan : String → Except String Int} {root : Registry.Root}
variable {file : Option (Except String Json)} {audit : SupplyChain.Audit}

theorem passes_entry {entry : Registry.Entry} (nonempty : entry.name ≠ "") :
    Passes audited (.object (entryDocument entry)) ↔
      (audited entry.name).returncode = 0 := by
  have named : entryName (.object (entryDocument entry)) =
      some entry.name := by
    rw [entryName, Aggregate.entry_name]
    exact if_neg nonempty
  unfold Passes
  rw [named]
  simp only [Option.some.injEq, exists_eq_left']

theorem discovers_workloads {found : Registry.Discovered}
    (nonempty : found.workloads ≠ [])
    (prints : Prints loads discovered
      (discoverSupplyChainWorkloads (.ok found))) :
    Discovers loads floatIs discovered
      (found.workloads.map fun entry => .object (entryDocument entry)) := by
  rw [discoverSupplyChainWorkloads_matrix nonempty] at prints
  refine ⟨prints.1, _, _, prints.2, rfl, ?_, rfl⟩
  rw [Aggregate.truthy, decide_eq_true_eq, List.length_map]
  exact mt List.length_eq_zero_iff.mp nonempty

/-- The audit is clean exactly if the authority passes. -/
theorem clean_iff_passes
    (prints : Prints loads discovered (discoverSupplyChainWorkloads
      (Registry.validateRepository repr floatIs root file)))
    (exits : ∀ name, (audited name).returncode = exitStatus (scan name))
    (codes : ExitCodes scan)
    (isAudit : runLiveAudit isWord loads dumps repr floatIs audited discovered =
      .ok audit) :
    audit.classification = "clean" ↔
      supplyChainJobPasses repr
        (Registry.validateRepository repr floatIs root file)
        (discoverSupplyChainWorkloads
          (Registry.validateRepository repr floatIs root file)) scan =
        true := by
  rw [supplyChainJob_passes]
  cases accepted : Registry.validateRepository repr floatIs root file with
  | error error =>
      rw [accepted] at prints
      have failed : discovered.returncode ≠ 0 := prints
      have noEntries : discoveredEntries loads floatIs discovered =
          .error ("canonical workload discovery failed:\n" ++
            discovered.stdout) := by
        rw [discoveredEntries, ensure, if_neg failed]
        rfl
      rw [runLiveAudit, noEntries] at isAudit
      rw [← Except.ok.inj isAudit]
      refine iff_of_false failure_ne_clean ?_
      intro found
      obtain ⟨other, impossible, _⟩ := found
      cases impossible
  | ok found =>
      have canonical := canonical_of_accepted accepted
      have nonempty := workloads_nonempty accepted
      rw [accepted] at prints
      have run := @runLiveAudit_of_discovers isWord loads dumps repr floatIs
        audited discovered _ (discovers_workloads nonempty prints)
      rw [run] at isAudit
      rw [← Except.ok.inj isAudit, (conclude_entries _).2.1,
        List.forall_mem_map]
      simp only [Except.ok.injEq, exists_eq_left']
      apply forall₂_congr
      intro entry member
      have named : entry.name ≠ "" := (canonical.sound entry
        (List.mem_append_left _ member)).plain.nonempty
      rw [passes_entry named, exits, exitStatus_eq_zero codes]

end

/-! ### The issue -/

variable {isWord : Char → Bool} {loads : String → Except String Json}
variable {quote : String → String} {dumps repr : Json → String}
variable {floatIs : String → Int → Bool}
variable {discovered : Completed} {audited : String → Completed}
variable {scan : String → Except String Int} {root : Registry.Root}
variable {file : Option (Except String Json)} {audit : SupplyChain.Audit}
variable {known : List String} {service : Service} {system : System Auditor}

/-- Whatever happened to the issues before, and whatever else happens to them
while the audit is reported, other than an edit of its own issue: once the
report has returned, no issue of the audit is open exactly if the authority of
a pull request over the same registry passes with the same scans. -/
theorem weekly_issue_exact {before events : List (Event Auditor)}
    {runUrl : String} {request : ReconcileRequest} {run : Run}
    {message : String} (documented : Documented service)
    (prints : Prints loads discovered (discoverSupplyChainWorkloads
      (Registry.validateRepository repr floatIs root file)))
    (exits : ∀ name, (audited name).returncode = exitStatus (scan name))
    (codes : ExitCodes scan)
    (isAudit : runLiveAudit isWord loads dumps repr floatIs audited discovered =
      .ok audit)
    (quiet : Quiet Auditor.marker system)
    (lawful : Along service (Lawful quote dumps known) before system)
    (begun : (Report.supplyChain audit).main quote dumps known runUrl =
      .ok request)
    (clear : (Report.supplyChain audit).Clear dumps runUrl)
    (idle : (system.run service before).idle .supplyChain = true)
    (calm : Along service (fun system event =>
      Lawful quote dumps known system event ∧
        Calm Auditor.marker .supplyChain system event) events
          ((system.run service before).step service
            (.start .supplyChain request)))
    (isRun : (((system.run service before).step service
      (.start .supplyChain request)).run service events).runs .supplyChain =
        some run)
    (returned : run.phase = .ended (.ok message)) :
    (∀ number content,
      (((system.run service before).step service
        (.start .supplyChain request)).run service events).tracker.get?
          number = some content →
        content.Bears Auditor.supplyChain.marker → content.state = .closed) ↔
      supplyChainJobPasses repr
        (Registry.validateRepository repr floatIs root file)
        (discoverSupplyChainWorkloads
          (Registry.validateRepository repr floatIs root file)) scan =
        true := by
  have sound := quiet.sound.run documented
    (lawful.mono (fun _ _ => Lawful.allowed))
  have reconciled := reconciled_of_settles begun
    (returned_settles documented sound
      ((Report.supplyChain audit).proper begun clear) idle
      (calm.mono (fun _ _ parts => ⟨parts.1.allowed, parts.2⟩)) isRun
      returned)
  rw [← clean_iff_passes prints exits codes isAudit]
  unfold Reconciled at reconciled
  by_cases clean : (Report.supplyChain audit).classification = "clean"
  · rw [if_pos clean] at reconciled
    exact iff_of_true reconciled clean
  · rw [if_neg clean] at reconciled
    refine iff_of_false ?_ clean
    intro closed
    obtain ⟨number, content, found, bears, opened, _⟩ := reconciled
    have shut := closed number content found bears
    rw [opened] at shut
    cases shut

def partitionProject : Registry.Project :=
  { manifest := some (.ok [("package", .table [("name", .text "partition")])])
    entrypoint := some true }

def partitionRoot : Registry.Root :=
  { children := [("postgres-local-partition", some partitionProject)]
    distinct := by decide
    plain := by decide }

def partitionEntry : Registry.Entry :=
  { kind := "workload"
    name := "postgres-local-partition"
    path := "postgres-local-partition"
    msrv :=
      { declared := false
        version := none
        policyReason := some "not published" } }

def partitionMembers : Registry.Members :=
  [("schema_version", .integer 3),
    ("workloads", .array [.object
      [("name", .string "postgres-local-partition"),
        ("path", .string "postgres-local-partition"),
        ("msrv", .object [("declared", .bool false),
          ("policy_reason", .string "not published")])]])]

theorem partition_accepted :
    Registry.validateRepository (fun _ => "") (fun _ _ => false) partitionRoot
      (some (.ok (.object partitionMembers))) =
        .ok { workloads := [partitionEntry], fixtures := [] } := by
  have entries : Registry.validateEntries (fun _ => "") partitionRoot
      "workload" { names := [], paths := [] }
      [.object [("name", .string "postgres-local-partition"),
        ("path", .string "postgres-local-partition"),
        ("msrv", .object [("declared", .bool false),
          ("policy_reason", .string "not published")])]] =
      .ok ([partitionEntry],
        { names := ["postgres-local-partition"]
          paths := ["postgres-local-partition"] }) := rfl
  rw [Registry.validateRepository_eq_ok]
  refine ⟨partitionMembers, [partitionEntry], [], [], rfl, ?_, ?_⟩
  · exact {
      version := rfl
      workloadList := ⟨_, rfl, List.cons_ne_nil _ _,
        (Registry.validateEntries_eq_ok.mp entries).1⟩
      fixtureList := ⟨[], Or.inr ⟨rfl, rfl⟩, List.Forall₂.nil⟩
      reservedList := ⟨[], Or.inr ⟨rfl, rfl⟩, List.Forall₂.nil⟩
      names := by decide
      paths := by decide
      complete := fun name => Iff.rfl }
  · rw [Registry.sortByPath, List.mergeSort_singleton, Registry.sortByPath,
      List.mergeSort_nil]

/-- What the discovery prints. -/
def partitionPrinted : Completed :=
  { returncode := 0
    stdout := "\x7b\"include\": [\x7b\"kind\": \"workload\", " ++
      "\"name\": \"postgres-local-partition\", " ++
      "\"path\": \"postgres-local-partition\", " ++
      "\"msrv\": \x7b\"declared\": false, \"version\": null, " ++
      "\"policy_reason\": \"not published\"\x7d\x7d]\x7d" }

def loadsPartition (text : String) : Except String Json :=
  if text = partitionPrinted.stdout then .ok (matrixDocument [partitionEntry])
  else .error "not the document"

theorem partition_prints :
    Prints loadsPartition partitionPrinted (discoverSupplyChainWorkloads
      (Registry.validateRepository (fun _ => "") (fun _ _ => false)
        partitionRoot (some (.ok (.object partitionMembers))))) := by
  rw [partition_accepted,
    discoverSupplyChainWorkloads_matrix (List.cons_ne_nil _ _)]
  exact ⟨rfl, if_pos rfl⟩

theorem partition_audited :
    runLiveAudit Char.isAlphanum loadsPartition (fun _ => "") (fun _ => "")
      (fun _ _ => false) (fun _ => { returncode := 0, stdout := "" })
      partitionPrinted = .ok AuditIssue.recoveredAudit := by
  have discovers := @discovers_workloads loadsPartition (fun _ _ => false)
    partitionPrinted { workloads := [partitionEntry], fixtures := [] }
    (List.cons_ne_nil _ _) (by
      rw [← partition_accepted]
      exact partition_prints)
  rw [runLiveAudit_of_discovers discovers]
  rfl

theorem lawful_answers (moments : List Nat) (system : System Auditor) :
    Along service (fun system event =>
      Lawful quote dumps known system event ∧
        Calm Auditor.marker .supplyChain system event)
          (moments.map (Event.answered .supplyChain)) system := by
  induction moments generalizing system with
  | nil => trivial
  | cons moment rest ih => exact ⟨⟨trivial, trivial⟩, ih _⟩

/-- The audit found something, its issue was opened, and now it is clean: the
issue is closed, and the authority passes. -/
theorem weekly_issue_exact_recovered :
    (∀ number content,
      (((AuditIssue.noIssues.run (AuditIssue.willingService 65536)
        (AuditIssue.asked ++ AuditIssue.replied)).step
          (AuditIssue.willingService 65536)
          (.start .supplyChain AuditIssue.recoveredRequest)).run
            (AuditIssue.willingService 65536) ([2, 3, 4].map
              (Event.answered .supplyChain))).tracker.get? number =
                some content →
        content.Bears Auditor.supplyChain.marker →
          content.state = .closed) ∧
      supplyChainJobPasses (fun _ => "")
        (Registry.validateRepository (fun _ => "") (fun _ _ => false)
          partitionRoot (some (.ok (.object partitionMembers))))
        (discoverSupplyChainWorkloads
          (Registry.validateRepository (fun _ => "") (fun _ _ => false)
            partitionRoot (some (.ok (.object partitionMembers)))))
        (fun _ => .ok 0) = true := by
  have documented := AuditIssue.willingService_documented 65536
  have codes : ExitCodes (fun _ => .ok 0) := by
    intro name exitCode ended
    rw [← Except.ok.inj ended]
    decide
  have proper : AuditIssue.Proper Auditor.marker .supplyChain
      AuditIssue.recoveredRequest :=
    Report.proper AuditIssue.recovered_begun AuditIssue.recovered_clear
  obtain ⟨message, isRun⟩ := AuditIssue.undisturbed_returns documented
    AuditIssue.replied_sound proper AuditIssue.replied_idle
    AuditIssue.replied_enough AuditIssue.recovered_granted
  have exact_ := weekly_issue_exact documented partition_prints
    (fun _ => rfl) codes partition_audited AuditIssue.noIssues_quiet
    AuditIssue.asked_replied_lawful AuditIssue.recovered_begun
    AuditIssue.recovered_clear AuditIssue.replied_idle
    (lawful_answers _ _) isRun rfl
  have passes := (@supplyChainJob_passes (fun _ => "") (fun _ _ => false)
    partitionRoot (some (.ok (.object partitionMembers)))
    (fun _ => .ok 0)).mpr ⟨_, partition_accepted, fun _ _ => rfl⟩
  exact ⟨exact_.mpr passes, passes⟩

end ScheduledAudit
