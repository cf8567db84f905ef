/-
What the scheduled supply-chain audit ends with.

An audit is clean exactly if discovery prints workloads and every scan exits
with zero.  It reports a finding exactly if every other scan says which check
failed; anything else is a failure of the audit itself.
-/

import Mathlib.Data.List.Dedup
import Mathlib.Data.List.TakeWhile
import OxideWorkloads.Ci.RegistryExact
import OxideWorkloads.Ci.ScheduledAudit

namespace ScheduledAudit

open Foundation
open Foundation.Checks
open Foundation.Scanning (Absent findAll_eq_nil matched_of_mem_findAll)
open Registry (get? at_)
open AuditIssue (SupplyChain.Audit)

/-! ### Policy verdicts -/

/-- An output says that a check failed: its name, white space and the verdict,
each a word of its own. -/
def Says (isWord : Char → Bool) (output : List Char) (check : String) : Prop :=
  ∃ before gap after,
    output = before ++ (check.toList ++ (gap ++ ("FAILED".toList ++ after))) ∧
      gap ≠ [] ∧ (∀ char ∈ gap, Python.isSpace char = true) ∧
      boundary isWord before.getLast? check.toList.head? = true ∧
      boundary isWord (some 'D') after.head? = true

variable {isWord : Char → Bool}

theorem afterLiteral_eq_some {literal text rest : List Char} :
    afterLiteral literal text = some rest ↔ text = literal ++ rest := by
  unfold afterLiteral
  constructor
  · intro found
    by_cases begins : literal.isPrefixOf text
    · rw [if_pos begins] at found
      obtain ⟨rest', split⟩ := List.isPrefixOf_iff_prefix.mp begins
      rw [← split, List.drop_left] at found
      rw [← split, Option.some.inj found]
    · rw [if_neg begins] at found
      cases found
  · intro split
    rw [split, if_pos (List.isPrefixOf_iff_prefix.mpr ⟨rest, rfl⟩),
      List.drop_left]

theorem takeWhile_gap {gap rest : List Char}
    (blank : ∀ char ∈ gap, Python.isSpace char = true) :
    (gap ++ ("FAILED".toList ++ rest)).takeWhile Python.isSpace = gap := by
  rw [List.takeWhile_append_of_pos blank]
  have stops : ("FAILED".toList ++ rest).takeWhile Python.isSpace = [] := rfl
  rw [stops, List.append_nil]

theorem dropWhile_gap {gap rest : List Char}
    (blank : ∀ char ∈ gap, Python.isSpace char = true) :
    (gap ++ ("FAILED".toList ++ rest)).dropWhile Python.isSpace =
      "FAILED".toList ++ rest := by
  rw [List.dropWhile_append_of_pos blank]
  rfl

theorem failedCheck_eq_some {text : List Char} {check : String}
    {found : String × Nat} (isFound : failedCheck isWord text check =
      some found) :
    found.1 = check ∧ ∃ gap after,
      text = check.toList ++ (gap ++ ("FAILED".toList ++ after)) ∧
        gap ≠ [] ∧ (∀ char ∈ gap, Python.isSpace char = true) ∧
        boundary isWord (some 'D') after.head? = true := by
  unfold failedCheck at isFound
  obtain ⟨rest, begins, goesOn⟩ := Option.bind_eq_some_iff.mp isFound
  by_cases noGap : rest.takeWhile Python.isSpace = []
  · rw [if_pos noGap] at goesOn
    cases goesOn
  rw [if_neg noGap] at goesOn
  obtain ⟨after, verdict, ends⟩ := Option.bind_eq_some_iff.mp goesOn
  by_cases bounded : boundary isWord (some 'D') after.head? = true
  · rw [if_pos bounded] at ends
    constructor
    · rw [← Option.some.inj ends]
    · refine ⟨rest.takeWhile Python.isSpace, after, ?_, noGap, ?_, bounded⟩
      · rw [← afterLiteral_eq_some.mp verdict, List.takeWhile_append_dropWhile]
        exact afterLiteral_eq_some.mp begins
      · intro char member
        exact List.mem_takeWhile_imp member
  · rw [if_neg bounded] at ends
    cases ends

theorem failedCheck_of_split {gap after : List Char} {check : String}
    (nonempty : gap ≠ [])
    (blank : ∀ char ∈ gap, Python.isSpace char = true)
    (bounded : boundary isWord (some 'D') after.head? = true) :
    (failedCheck isWord
      (check.toList ++ (gap ++ ("FAILED".toList ++ after))) check).isSome =
        true := by
  unfold failedCheck
  rw [afterLiteral_eq_some.mpr rfl]
  dsimp only [bind, Option.bind]
  rw [takeWhile_gap blank, if_neg nonempty, dropWhile_gap blank,
    afterLiteral_eq_some.mpr rfl]
  dsimp only
  rw [if_pos bounded]
  rfl

theorem nonempty_of_check {check : String} (member : check ∈ policyChecks) :
    check.toList ≠ [] := by
  revert check
  decide

theorem head?_check {check : String} {rest : List Char}
    (member : check ∈ policyChecks) :
    (check.toList ++ rest).head? = check.toList.head? := by
  cases listed : check.toList with
  | nil => exact absurd listed (nonempty_of_check member)
  | cons first others => rfl

theorem policyFailure_eq_some {before : Option Char} {text : List Char}
    {found : String × Nat}
    (isFound : policyFailure isWord before text = some found) :
    found.1 ∈ policyChecks ∧ boundary isWord before text.head? = true ∧
      failedCheck isWord text found.1 = some found := by
  unfold policyFailure at isFound
  by_cases bounded : boundary isWord before text.head? = true
  · rw [if_pos bounded] at isFound
    obtain ⟨check, member, here⟩ := List.exists_of_findSome?_eq_some isFound
    rw [(failedCheck_eq_some here).1]
    exact ⟨member, bounded, here⟩
  · rw [if_neg bounded] at isFound
    cases isFound

theorem says_of_policyFailure {left right : List Char} {found : String × Nat}
    (isFound : policyFailure isWord (left.getLast?.or none) right =
      some found) :
    found.1 ∈ policyChecks ∧ Says isWord (left ++ right) found.1 := by
  obtain ⟨member, bounded, here⟩ := policyFailure_eq_some isFound
  obtain ⟨_, gap, after, split, nonempty, blank, ends⟩ :=
    failedCheck_eq_some here
  rw [Option.or_none, split, head?_check member] at bounded
  exact ⟨member, left, gap, after, by rw [split], nonempty, blank, bounded,
    ends⟩

/-- Without a failed check no output says that a check failed. -/
theorem failedChecks_eq_nil {output : List Char} :
    failedChecks isWord output = [] ↔
      ∀ check ∈ policyChecks, ¬Says isWord output check := by
  unfold failedChecks
  rw [Registry.sortTexts_eq_nil, List.dedup_eq_nil, findAll_eq_nil]
  constructor
  · intro absent check member said
    obtain ⟨before, gap, after, split, nonempty, blank, begins, ends⟩ := said
    have nothing := absent before _ split (by
      intro empty
      exact nonempty_of_check member (List.append_eq_nil_iff.mp empty).1)
    have found := @failedCheck_of_split isWord gap after check nonempty blank
      ends
    unfold policyFailure at nothing
    rw [Option.or_none, head?_check member, if_pos begins,
      List.findSome?_eq_none_iff] at nothing
    rw [nothing check member] at found
    cases found
  · intro silent left right split _
    cases found : policyFailure isWord (left.getLast?.or none) right with
    | none => rfl
    | some result =>
        obtain ⟨member, said⟩ := says_of_policyFailure found
        rw [← split] at said
        exact absurd said (silent _ member)

theorem failedChecks_ne_nil {output : List Char} :
    failedChecks isWord output ≠ [] ↔
      ∃ check ∈ policyChecks, Says isWord output check := by
  rw [ne_eq, failedChecks_eq_nil]
  simp only [not_forall, not_not, exists_prop]

/-- An output says of every failed check that it failed. -/
theorem says_of_mem_failedChecks {output : List Char} {check : String}
    (member : check ∈ failedChecks isWord output) :
    check ∈ policyChecks ∧ Says isWord output check := by
  unfold failedChecks Registry.sortTexts at member
  rw [List.mem_mergeSort, List.mem_dedup] at member
  obtain ⟨left, right, more, split, isMatch⟩ := matched_of_mem_findAll member
  rw [split]
  exact says_of_policyFailure isMatch

/-! ### The scans -/

section

variable {loads : String → Except String Json} {dumps repr : Json → String}
variable {floatIs : String → Int → Bool} {scan : String → Completed}

/-- The scan of the workload of an entry exits with zero. -/
def Passes (scan : String → Completed) (entry : Json) : Prop :=
  ∃ name, entryName entry = some name ∧ (scan name).returncode = 0

/-- The scan of the workload of an entry fails, and says which check did. -/
def Finds (isWord : Char → Bool) (scan : String → Completed) (entry : Json) :
    Prop :=
  ∃ name, entryName entry = some name ∧ (scan name).returncode ≠ 0 ∧
    ∃ check ∈ policyChecks, Says isWord (scan name).normalizedOutput check

/-- The finding that an entry adds. -/
def findingOf (isWord : Char → Bool) (scan : String → Completed)
    (entry : Json) : List Finding :=
  (scanEntry isWord (fun _ => "") scan Scanned.none entry).policyFindings

/-- The failure that an entry adds. -/
def failureOf (isWord : Char → Bool) (repr : Json → String)
    (scan : String → Completed) (entry : Json) : List String :=
  (scanEntry isWord repr scan Scanned.none entry).infrastructureFailures

theorem scanEntry_eq {state : Scanned} {entry : Json} :
    scanEntry isWord repr scan state entry =
      { scanned := state.scanned ++ (entryName entry).toList
        policyFindings := state.policyFindings ++ findingOf isWord scan entry
        infrastructureFailures := state.infrastructureFailures ++
          failureOf isWord repr scan entry } := by
  unfold findingOf failureOf scanEntry
  cases entryName entry with
  | none => simp [Scanned.none]
  | some name =>
      dsimp only
      by_cases passed : (scan name).returncode = 0
      · simp [passed, Scanned.none]
      · by_cases found :
          failedChecks isWord (scan name).normalizedOutput = []
        · simp [passed, found, Scanned.none]
        · simp [passed, found, Scanned.none]

theorem scanEntries_eq {state : Scanned} {entries : List Json} :
    entries.foldl (scanEntry isWord repr scan) state =
      { scanned := state.scanned ++ entries.filterMap entryName
        policyFindings := state.policyFindings ++
          entries.flatMap (findingOf isWord scan)
        infrastructureFailures := state.infrastructureFailures ++
          entries.flatMap (failureOf isWord repr scan) } := by
  induction entries generalizing state with
  | nil => simp
  | cons entry rest ih =>
      rw [List.foldl_cons, scanEntry_eq, ih]
      cases named : entryName entry with
      | none => simp [named]
      | some name => simp [named]

theorem failureOf_eq_nil {entry : Json} :
    failureOf isWord repr scan entry = [] ↔
      Passes scan entry ∨ Finds isWord scan entry := by
  unfold failureOf scanEntry Passes Finds
  simp only [← failedChecks_ne_nil]
  cases entryName entry with
  | none => simp [Scanned.none]
  | some name =>
      dsimp only
      by_cases passed : (scan name).returncode = 0
      · simp [passed, Scanned.none]
      · by_cases found :
          failedChecks isWord (scan name).normalizedOutput = []
        · simp [passed, found, Scanned.none]
        · simp [passed, found, Scanned.none]

theorem findingOf_ne_nil {entry : Json} :
    findingOf isWord scan entry ≠ [] ↔ Finds isWord scan entry := by
  unfold findingOf scanEntry Finds
  simp only [← failedChecks_ne_nil]
  cases entryName entry with
  | none => simp [Scanned.none]
  | some name =>
      dsimp only
      by_cases passed : (scan name).returncode = 0
      · simp [passed, Scanned.none]
      · by_cases found :
          failedChecks isWord (scan name).normalizedOutput = []
        · simp [passed, found, Scanned.none]
        · simp [passed, found, Scanned.none]

theorem says_of_mem_findingOf {entry : Json} {finding : Finding}
    (member : finding ∈ findingOf isWord scan entry) :
    entryName entry = some finding.workload ∧
      ∀ check ∈ finding.checks,
        Says isWord (scan finding.workload).normalizedOutput check := by
  unfold findingOf scanEntry at member
  cases named : entryName entry with
  | none => simp [named, Scanned.none] at member
  | some name =>
      by_cases passed : (scan name).returncode = 0
      · simp [named, passed, Scanned.none] at member
      · by_cases found :
          failedChecks isWord (scan name).normalizedOutput = []
        · simp [named, passed, found, Scanned.none] at member
        · simp only [named, passed, found, Scanned.none, if_false, if_true,
            ne_eq, not_false_eq_true, List.nil_append,
            List.mem_singleton] at member
          rw [member]
          exact ⟨rfl, fun check inChecks =>
            (says_of_mem_failedChecks inChecks).2⟩

theorem not_finds_of_passes {entry : Json} (passes : Passes scan entry) :
    ¬Finds isWord scan entry := by
  intro finds
  obtain ⟨name, named, passed⟩ := passes
  obtain ⟨other, alsoNamed, failed, _⟩ := finds
  rw [named] at alsoNamed
  rw [← Option.some.inj alsoNamed] at failed
  exact failed passed

/-! ### The audit -/

/-- Discovery prints a document that lists these entries. -/
def Discovers (loads : String → Except String Json)
    (floatIs : String → Int → Bool) (discovered : Completed)
    (entries : List Json) : Prop :=
  discovered.returncode = 0 ∧ ∃ members value,
    loads discovered.stdout = .ok (.object members) ∧
      get? members "include" = some value ∧
      Aggregate.truthy floatIs value = true ∧ iterate value = .ok entries

theorem subscript_eq_ok {key : String} {document value : Json} :
    subscript key document = .ok value ↔
      ∃ members, document = .object members ∧
        get? members key = some value := by
  cases document <;> simp [subscript]

theorem discoveredEntries_eq_ok {discovered : Completed} {value : Json} :
    discoveredEntries loads floatIs discovered = .ok value ↔
      discovered.returncode = 0 ∧ ∃ members,
        loads discovered.stdout = .ok (.object members) ∧
          get? members "include" = some value ∧
          Aggregate.truthy floatIs value = true := by
  unfold discoveredEntries
  simp only [bind_eq_ok, ensure_eq_ok, exists_const]
  refine and_congr_right fun _ => ?_
  cases found : loads discovered.stdout >>= subscript "include" with
  | error exc =>
      constructor
      · intro impossible
        cases impossible
      · intro listed
        obtain ⟨members, isObject, isValue, _⟩ := listed
        rw [isObject, ok_bind, subscript, isValue] at found
        cases found
  | ok entries =>
      obtain ⟨document, isDocument, isEntries⟩ := bind_eq_ok.mp found
      obtain ⟨members, isObject, isValue⟩ := subscript_eq_ok.mp isEntries
      rw [isObject] at isDocument
      simp only [bind_eq_ok, ensure_eq_ok, pure_eq_ok, exists_const]
      constructor
      · intro accepted
        rw [← accepted.2]
        exact ⟨members, isDocument, isValue, accepted.1⟩
      · intro listed
        obtain ⟨others, alsoObject, alsoValue, isTrue⟩ := listed
        rw [isDocument, Except.ok.injEq, Json.object.injEq] at alsoObject
        rw [← alsoObject, isValue] at alsoValue
        rw [Option.some.inj alsoValue]
        exact ⟨isTrue, rfl⟩

theorem runLiveAudit_of_discovers {discovered : Completed}
    {entries : List Json}
    (discovers : Discovers loads floatIs discovered entries) :
    runLiveAudit isWord loads dumps repr floatIs scan discovered =
      .ok (conclude dumps
        (entries.foldl (scanEntry isWord repr scan) Scanned.none)) := by
  obtain ⟨exited, members, value, isObject, isValue, isTrue, items⟩ :=
    discovers
  have found : discoveredEntries loads floatIs discovered = .ok value :=
    discoveredEntries_eq_ok.mpr ⟨exited, members, isObject, isValue, isTrue⟩
  rw [runLiveAudit, found]
  dsimp only
  rw [items]
  rfl

/-- Discovery lists what no loop goes over, and the script dies of it. -/
def Dies (loads : String → Except String Json)
    (floatIs : String → Int → Bool) (discovered : Completed) : Prop :=
  ∃ value exc, discoveredEntries loads floatIs discovered = .ok value ∧
    iterate value = .error exc

theorem runLiveAudit_eq_error {discovered : Completed} :
    (∃ exc, runLiveAudit isWord loads dumps repr floatIs scan discovered =
        .error exc) ↔
      Dies loads floatIs discovered := by
  unfold runLiveAudit Dies
  cases found : discoveredEntries loads floatIs discovered with
  | error details => simp
  | ok value =>
      cases items : iterate value with
      | error exc => simp [items]
      | ok entries => simp [items]

theorem clean_ne_finding : "clean" ≠ "policy-finding" := by decide

theorem failure_ne_clean : "infrastructure-failure" ≠ "clean" := by decide

theorem failure_ne_finding :
    "infrastructure-failure" ≠ "policy-finding" := by decide

/-- What the conclusion from the scans of some entries is. -/
theorem conclude_entries (entries : List Json) :
    let audit := conclude dumps
      (entries.foldl (scanEntry isWord repr scan) Scanned.none)
    audit.workloads = entries.filterMap entryName ∧
      (audit.classification = "clean" ↔
        ∀ entry ∈ entries, Passes scan entry) ∧
      (audit.classification = "policy-finding" ↔
        (∃ entry ∈ entries, Finds isWord scan entry) ∧
          ∀ entry ∈ entries, Passes scan entry ∨ Finds isWord scan entry) ∧
      (audit.classification ≠ "clean" →
        audit.classification ≠ "policy-finding" →
          audit.classification = "infrastructure-failure") ∧
      (audit.classification = "policy-finding" →
        audit.details = findingsText dumps
          (entries.flatMap (findingOf isWord scan))) := by
  have failures : entries.flatMap (failureOf isWord repr scan) = [] ↔
      ∀ entry ∈ entries, Passes scan entry ∨ Finds isWord scan entry := by
    rw [List.flatMap_eq_nil_iff]
    exact forall₂_congr fun entry _ => failureOf_eq_nil
  have findings : entries.flatMap (findingOf isWord scan) = [] ↔
      ∀ entry ∈ entries, ¬Finds isWord scan entry := by
    rw [List.flatMap_eq_nil_iff]
    exact forall₂_congr fun entry _ => not_iff_not.mp (by
      rw [not_not]
      exact findingOf_ne_nil)
  intro audit
  have isAudit : audit = conclude dumps
      { scanned := entries.filterMap entryName
        policyFindings := entries.flatMap (findingOf isWord scan)
        infrastructureFailures :=
          entries.flatMap (failureOf isWord repr scan) } := by
    have folded := @scanEntries_eq isWord repr scan Scanned.none entries
    simp only [Scanned.none, List.nil_append] at folded
    rw [← folded]
    rfl
  rw [isAudit]
  unfold conclude
  dsimp only
  by_cases failed : entries.flatMap (failureOf isWord repr scan) = []
  · have each := failures.mp failed
    by_cases silent : entries.flatMap (findingOf isWord scan) = []
    · have none_ := findings.mp silent
      have clean : ∀ entry ∈ entries, Passes scan entry := fun entry member =>
        (each entry member).resolve_right (none_ entry member)
      rw [if_neg (not_not.mpr failed), if_neg (not_not.mpr silent)]
      refine ⟨rfl, iff_of_true rfl clean,
        iff_of_false clean_ne_finding ?_,
        fun notClean => absurd rfl notClean,
        fun found => absurd found clean_ne_finding⟩
      intro found
      obtain ⟨⟨entry, member, finds⟩, _⟩ := found
      exact none_ entry member finds
    · have some_ := mt findings.mpr silent
      simp only [not_forall, not_not, exists_prop] at some_
      rw [if_neg (not_not.mpr failed), if_pos silent]
      refine ⟨rfl, iff_of_false clean_ne_finding.symm ?_,
        iff_of_true rfl ⟨some_, each⟩,
        fun _ notFinding => absurd rfl notFinding, fun _ => rfl⟩
      intro clean
      obtain ⟨entry, member, finds⟩ := some_
      exact not_finds_of_passes (clean entry member) finds
  · have broken := mt failures.mpr failed
    rw [if_pos failed]
    refine ⟨rfl, iff_of_false failure_ne_clean ?_,
      iff_of_false failure_ne_finding ?_, fun _ _ => rfl,
      fun found => absurd found failure_ne_finding⟩
    · intro clean
      exact broken fun entry member => Or.inl (clean entry member)
    · intro found
      exact broken found.2

/-- An audit that runs to its end is clean exactly if discovery lists entries
whose scans all exit with zero.  It has a finding exactly if some scan failed
and every scan that failed says which check did; the findings then list only
such checks.  All else is a failure of the audit, unless the script dies. -/
theorem runLiveAudit_exact (isWord : Char → Bool)
    (loads : String → Except String Json) (dumps repr : Json → String)
    (floatIs : String → Int → Bool) (scan : String → Completed)
    (discovered : Completed) :
    (∀ entries, Discovers loads floatIs discovered entries →
      ∃ audit, runLiveAudit isWord loads dumps repr floatIs scan discovered =
          .ok audit ∧
        audit.workloads = entries.filterMap entryName ∧
        (audit.classification = "clean" ↔
          ∀ entry ∈ entries, Passes scan entry) ∧
        (audit.classification = "policy-finding" ↔
          (∃ entry ∈ entries, Finds isWord scan entry) ∧
            ∀ entry ∈ entries, Passes scan entry ∨ Finds isWord scan entry) ∧
        (audit.classification ≠ "clean" →
          audit.classification ≠ "policy-finding" →
            audit.classification = "infrastructure-failure") ∧
        (audit.classification = "policy-finding" →
          ∃ findings, audit.details = findingsText dumps findings ∧
            findings ≠ [] ∧ ∀ finding ∈ findings,
              (scan finding.workload).returncode ≠ 0 ∧
                ∀ check ∈ finding.checks,
                  Says isWord (scan finding.workload).normalizedOutput
                    check)) ∧
      ((∀ entries, ¬Discovers loads floatIs discovered entries) →
        ∀ audit, runLiveAudit isWord loads dumps repr floatIs scan discovered =
            .ok audit →
          audit.classification = "infrastructure-failure" ∧
            audit.workloads = []) ∧
      ((∃ exc, runLiveAudit isWord loads dumps repr floatIs scan discovered =
          .error exc) ↔
        Dies loads floatIs discovered) := by
  refine ⟨?_, ?_, runLiveAudit_eq_error⟩
  · intro entries discovers
    obtain ⟨workloads, clean, finding, other, details⟩ :=
      @conclude_entries isWord dumps repr scan entries
    refine ⟨_, runLiveAudit_of_discovers discovers, workloads, clean, finding,
      other, ?_⟩
    intro found
    refine ⟨_, details found, ?_, ?_⟩
    · obtain ⟨entry, member, finds⟩ := (finding.mp found).1
      intro empty
      rw [List.flatMap_eq_nil_iff] at empty
      exact findingOf_ne_nil.mpr finds (empty entry member)
    · intro result member
      obtain ⟨entry, _, inEntry⟩ := List.mem_flatMap.mp member
      obtain ⟨named, said⟩ := says_of_mem_findingOf inEntry
      have finds : Finds isWord scan entry :=
        findingOf_ne_nil.mp (List.ne_nil_of_mem inEntry)
      obtain ⟨name, alsoNamed, failed, _⟩ := finds
      rw [named] at alsoNamed
      rw [← Option.some.inj alsoNamed] at failed
      exact ⟨failed, said⟩
  · intro nothing audit isAudit
    unfold runLiveAudit at isAudit
    cases found : discoveredEntries loads floatIs discovered with
    | error details =>
        rw [found] at isAudit
        rw [← Except.ok.inj isAudit]
        exact ⟨rfl, rfl⟩
    | ok value =>
        rw [found] at isAudit
        obtain ⟨entries, items, _⟩ := bind_eq_ok.mp isAudit
        obtain ⟨exited, members, isObject, isValue, isTrue⟩ :=
          discoveredEntries_eq_ok.mp found
        exact absurd ⟨exited, members, value, isObject, isValue, isTrue, items⟩
          (nothing entries)

def twoEntries : List Json :=
  [.object [("name", .string "csv-postgres")],
    .object [("name", .string "postgres-postgres")]]

/-- What the discovery prints. -/
def twoPrinted : Completed :=
  { returncode := 0
    stdout := "\x7b\"include\": [\x7b\"name\": \"csv-postgres\"\x7d, " ++
      "\x7b\"name\": \"postgres-postgres\"\x7d]\x7d" }

/-- The second workload fails a check. -/
def scanOfTwo (name : String) : Completed :=
  if name = "csv-postgres" then { returncode := 0, stdout := "bans ok" }
  else { returncode := 1, stdout := "advisories FAILED\n" }

theorem runLiveAudit_exact_two :
    ∃ audit, runLiveAudit Char.isAlphanum
        (fun _ => .ok (.object [("include", .array twoEntries)]))
        (fun _ => "") (fun _ => "") (fun _ _ => false) scanOfTwo
        twoPrinted = .ok audit ∧
      audit.workloads = ["csv-postgres", "postgres-postgres"] ∧
      audit.classification = "policy-finding" := by
  have discovers : Discovers
      (fun _ => .ok (.object [("include", .array twoEntries)]))
      (fun _ _ => false) twoPrinted twoEntries :=
    ⟨rfl, _, _, rfl, rfl, rfl, rfl⟩
  obtain ⟨audit, isAudit, workloads, _, finding, _⟩ :=
    (runLiveAudit_exact Char.isAlphanum
      (fun _ => .ok (.object [("include", .array twoEntries)]))
      (fun _ => "") (fun _ => "") (fun _ _ => false) scanOfTwo
      twoPrinted).1 twoEntries discovers
  refine ⟨audit, isAudit, workloads, finding.mpr ?_⟩
  have passes : Passes scanOfTwo
      (.object [("name", .string "csv-postgres")]) :=
    ⟨"csv-postgres", by decide, by decide⟩
  have finds : Finds Char.isAlphanum scanOfTwo
      (.object [("name", .string "postgres-postgres")]) := by
    refine ⟨"postgres-postgres", rfl, one_ne_zero, "advisories", by decide,
      [], [' '], [], rfl, List.cons_ne_nil _ _, ?_, rfl, rfl⟩
    intro char member
    rw [List.mem_singleton.mp member]
    rfl
  constructor
  · exact ⟨_, List.mem_cons_of_mem _ List.mem_cons_self, finds⟩
  · intro entry member
    rcases List.mem_cons.mp member with first | later
    · rw [first]
      exact Or.inl passes
    · rw [List.mem_singleton.mp later]
      exact Or.inr finds

end

end ScheduledAudit
