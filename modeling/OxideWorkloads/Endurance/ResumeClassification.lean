/-
What the reconciliation decides, stated without its walk.

A campaign is a prefix of complete sequences.  It is ready when the evidence
is exactly such a prefix and there is a number for the next sequence; one
failed or one unfinished sequence right behind the prefix blocks it with its
own verdict; everything else is inconsistent.  The walk reports exactly the
verdict that holds.
-/

import OxideWorkloads.Endurance.Resume

namespace Endurance

open Foundation
open Foundation.LineLog (Bytes)
open Foundation.Checks

/-! ### Verdicts -/

/-- Executed once and successfully. -/
def SequenceEvidence.Complete (evidence : SequenceEvidence) : Prop :=
  evidence.terminalSuccessEvents = 1 ∧ evidence.iterationSuccess = true ∧
    evidence.terminalFailureEvents = 0 ∧ evidence.failureFiles = 0

/-- Failed, and nothing says otherwise. -/
def SequenceEvidence.Failed (evidence : SequenceEvidence) : Prop :=
  (0 < evidence.failureFiles ∨ evidence.terminalFailureEvents = 1) ∧
    evidence.terminalFailureEvents ≤ 1 ∧
    evidence.terminalSuccessEvents = 0 ∧ evidence.iterationSuccess = false

/-- Begun, and not ended in any way. -/
def SequenceEvidence.Nonterminal (evidence : SequenceEvidence) : Prop :=
  0 < evidence.lifecycleEvents ∧ evidence.terminalSuccessEvents = 0 ∧
    evidence.terminalFailureEvents = 0 ∧ evidence.iterationSuccess = false ∧
    evidence.failureFiles = 0

/-- The sequences with evidence are `1, …, last`. -/
def PresentExactly (evidence : Evidence) (last : Nat) : Prop :=
  ∀ sequence, evidence.Present sequence ↔ 1 ≤ sequence ∧ sequence ≤ last

def CompleteUpTo (evidence : Evidence) (last : Nat) : Prop :=
  ∀ sequence, 1 ≤ sequence → sequence ≤ last →
    ∃ current, evidence.get? sequence = some current ∧ current.Complete

/-- The evidence of one sequence has a property. -/
def EvidenceAt (evidence : Evidence) (sequence : Nat)
    (property : SequenceEvidence → Prop) : Prop :=
  ∃ current, evidence.get? sequence = some current ∧ property current

/-- The verdicts, each with the number of complete sequences. -/
inductive Verdict where
  | ready (frontier : Nat)
  | failure (frontier : Nat)
  | incomplete (frontier : Nat)
  | inconsistent
  deriving DecidableEq, Repr

/-- The evidence is a complete prefix with a next sequence, or a complete
prefix and one sequence of another kind behind it. -/
def Verdict.Clear (evidence : Evidence) : Verdict → Prop
  | .ready frontier =>
      PresentExactly evidence frontier ∧ CompleteUpTo evidence frontier ∧
        frontier + 1 ≤ u64Max
  | .failure frontier =>
      PresentExactly evidence (frontier + 1) ∧
        CompleteUpTo evidence frontier ∧
        EvidenceAt evidence (frontier + 1) SequenceEvidence.Failed
  | .incomplete frontier =>
      PresentExactly evidence (frontier + 1) ∧
        CompleteUpTo evidence frontier ∧
        EvidenceAt evidence (frontier + 1) SequenceEvidence.Nonterminal
  | .inconsistent => False

/-- The verdict that a body of evidence deserves. -/
def Verdict.Holds (evidence : Evidence) : Verdict → Prop
  | .inconsistent => ∀ verdict : Verdict, ¬verdict.Clear evidence
  | verdict => verdict.Clear evidence

/-- The status says this verdict. -/
def Verdict.Reported (status : ResumeStatus) : Verdict → Prop
  | .ready frontier =>
      status.state = .ready ∧ status.frontierSequence = frontier ∧
        status.nextSequence = some (frontier + 1)
  | .failure frontier =>
      status.state = .blockedFailure ∧ status.frontierSequence = frontier ∧
        status.blockedSequence = some (frontier + 1)
  | .incomplete frontier =>
      status.state = .blockedIncomplete ∧
        status.frontierSequence = frontier ∧
        status.blockedSequence = some (frontier + 1)
  | .inconsistent => status.state = .blockedInconsistentEvidence

theorem Verdict.Reported.unique {status : ResumeStatus}
    {first second : Verdict} (left : first.Reported status)
    (right : second.Reported status) : first = second := by
  cases first <;> cases second <;> simp_all [Verdict.Reported]

theorem SequenceEvidence.Complete.not_failed {evidence : SequenceEvidence}
    (complete : evidence.Complete) : ¬evidence.Failed := by
  intro failed
  have some := complete.1
  have none := failed.2.2.1
  omega

theorem SequenceEvidence.Complete.not_nonterminal
    {evidence : SequenceEvidence} (complete : evidence.Complete) :
    ¬evidence.Nonterminal := by
  intro nonterminal
  have some := complete.1
  have none := nonterminal.2.1
  omega

/-- Behind a complete prefix comes a sequence that is not complete. -/
def FirstOpen (evidence : Evidence) (frontier : Nat) : Prop :=
  CompleteUpTo evidence frontier ∧
    ¬EvidenceAt evidence (frontier + 1) SequenceEvidence.Complete

def Verdict.frontier? : Verdict → Option Nat
  | .ready frontier => some frontier
  | .failure frontier => some frontier
  | .incomplete frontier => some frontier
  | .inconsistent => none

/-- A clear verdict counts the complete prefix. -/
theorem Verdict.Clear.firstOpen {evidence : Evidence} {verdict : Verdict}
    (clear : verdict.Clear evidence) :
    ∃ frontier, verdict.frontier? = some frontier ∧
      FirstOpen evidence frontier := by
  cases verdict with
  | ready frontier =>
      obtain ⟨present, complete, _⟩ := clear
      refine ⟨frontier, rfl, complete, ?_⟩
      rintro ⟨current, found, _⟩
      have bounds := (present (frontier + 1)).mp
        (by simp [OrderedMap.Present, found])
      omega
  | failure frontier =>
      obtain ⟨_, complete, current, found, failed⟩ := clear
      refine ⟨frontier, rfl, complete, ?_⟩
      rintro ⟨other, same, isComplete⟩
      rw [found] at same
      cases same
      exact isComplete.not_failed failed
  | incomplete frontier =>
      obtain ⟨_, complete, current, found, nonterminal⟩ := clear
      refine ⟨frontier, rfl, complete, ?_⟩
      rintro ⟨other, same, isComplete⟩
      rw [found] at same
      cases same
      exact isComplete.not_nonterminal nonterminal
  | inconsistent => exact absurd clear id

theorem FirstOpen.unique {evidence : Evidence} {first second : Nat}
    (left : FirstOpen evidence first) (right : FirstOpen evidence second) :
    first = second := by
  rcases Nat.lt_trichotomy first second with below | same | above
  · exact absurd (right.1 (first + 1) (by omega) (by omega)) left.2
  · exact same
  · exact absurd (left.1 (second + 1) (by omega) (by omega)) right.2

theorem Verdict.Clear.unique {evidence : Evidence} {first second : Verdict}
    (left : first.Clear evidence) (right : second.Clear evidence) :
    first = second := by
  obtain ⟨frontier, leftFrontier, leftOpen⟩ := left.firstOpen
  obtain ⟨other, rightFrontier, rightOpen⟩ := right.firstOpen
  have same := leftOpen.unique rightOpen
  subst same
  have ready_present : ∀ property : SequenceEvidence → Prop,
      PresentExactly evidence frontier →
        EvidenceAt evidence (frontier + 1) property → False := by
    rintro property present ⟨current, found, _⟩
    have bounds := (present (frontier + 1)).mp
      (by simp [OrderedMap.Present, found])
    omega
  have failed_nonterminal :
      EvidenceAt evidence (frontier + 1) SequenceEvidence.Failed →
        EvidenceAt evidence (frontier + 1) SequenceEvidence.Nonterminal →
          False := by
    rintro ⟨current, found, failed⟩ ⟨again, same, nonterminal⟩
    rw [found] at same
    cases same
    rcases failed.1 with files | events
    · have none := nonterminal.2.2.2.2
      omega
    · have none := nonterminal.2.2.1
      omega
  cases first with
  | inconsistent => exact absurd left id
  | ready at_ =>
      cases leftFrontier
      cases second with
      | inconsistent => exact absurd right id
      | ready other =>
          cases rightFrontier
          rfl
      | failure other =>
          cases rightFrontier
          exact (ready_present _ left.1 right.2.2).elim
      | incomplete other =>
          cases rightFrontier
          exact (ready_present _ left.1 right.2.2).elim
  | failure at_ =>
      cases leftFrontier
      cases second with
      | inconsistent => exact absurd right id
      | ready other =>
          cases rightFrontier
          exact (ready_present _ right.1 left.2.2).elim
      | failure other =>
          cases rightFrontier
          rfl
      | incomplete other =>
          cases rightFrontier
          exact (failed_nonterminal left.2.2 right.2.2).elim
  | incomplete at_ =>
      cases leftFrontier
      cases second with
      | inconsistent => exact absurd right id
      | ready other =>
          cases rightFrontier
          exact (ready_present _ right.1 left.2.2).elim
      | failure other =>
          cases rightFrontier
          exact (failed_nonterminal right.2.2 left.2.2).elim
      | incomplete other =>
          cases rightFrontier
          rfl

theorem Verdict.Holds.unique {evidence : Evidence} {first second : Verdict}
    (left : first.Holds evidence) (right : second.Holds evidence) :
    first = second := by
  cases first with
  | inconsistent =>
      cases second with
      | inconsistent => rfl
      | ready other => exact absurd right (left (.ready other))
      | failure other => exact absurd right (left (.failure other))
      | incomplete other => exact absurd right (left (.incomplete other))
  | ready frontier =>
      cases second with
      | inconsistent => exact absurd left (right (.ready frontier))
      | ready other => exact Verdict.Clear.unique left right
      | failure other => exact Verdict.Clear.unique left right
      | incomplete other => exact Verdict.Clear.unique left right
  | failure frontier =>
      cases second with
      | inconsistent => exact absurd left (right (.failure frontier))
      | ready other => exact Verdict.Clear.unique left right
      | failure other => exact Verdict.Clear.unique left right
      | incomplete other => exact Verdict.Clear.unique left right
  | incomplete frontier =>
      cases second with
      | inconsistent => exact absurd left (right (.incomplete frontier))
      | ready other => exact Verdict.Clear.unique left right
      | failure other => exact Verdict.Clear.unique left right
      | incomplete other => exact Verdict.Clear.unique left right

/-- To see that nothing clear can be said it is enough to look right behind
the complete prefix. -/
theorem inconsistent_of_firstOpen {evidence : Evidence} {frontier : Nat}
    (isOpen : FirstOpen evidence frontier)
    (notReady : ¬(Verdict.ready frontier).Clear evidence)
    (notFailure : ¬(Verdict.failure frontier).Clear evidence)
    (notIncomplete : ¬(Verdict.incomplete frontier).Clear evidence) :
    Verdict.inconsistent.Holds evidence := by
  intro verdict clear
  obtain ⟨other, counted, otherOpen⟩ := clear.firstOpen
  have same := otherOpen.unique isOpen
  subst same
  cases verdict with
  | ready at_ =>
      cases counted
      exact notReady clear
  | failure at_ =>
      cases counted
      exact notFailure clear
  | incomplete at_ =>
      cases counted
      exact notIncomplete clear
  | inconsistent => exact clear

/-! ### The walk decides -/

/-- What the scans guarantee about the sequence numbers. -/
def Numbered (evidence : Evidence) : Prop :=
  ∀ sequence, evidence.Present sequence →
    1 ≤ sequence ∧ sequence ≤ u64Max

theorem presentExactly_of_firstAbove {evidence : Evidence} {last : Nat}
    (numbered : Numbered evidence)
    (complete : ∀ sequence, 1 ≤ sequence → sequence ≤ last →
      evidence.Present sequence)
    (nothingAbove : ∀ sequence, evidence.Present sequence →
      sequence ≤ last) :
    PresentExactly evidence last := by
  intro sequence
  constructor
  · intro present
    exact ⟨(numbered sequence present).1, nothingAbove sequence present⟩
  · rintro ⟨low, high⟩
    exact complete sequence low high

theorem CompleteUpTo.present {evidence : Evidence} {last sequence : Nat}
    (complete : CompleteUpTo evidence last) (low : 1 ≤ sequence)
    (high : sequence ≤ last) : evidence.Present sequence := by
  obtain ⟨current, found, _⟩ := complete sequence low high
  simp [OrderedMap.Present, found]

theorem CompleteUpTo.succ {evidence : Evidence} {last : Nat}
    {current : SequenceEvidence} (complete : CompleteUpTo evidence last)
    (found : evidence.get? (last + 1) = some current)
    (isComplete : current.Complete) : CompleteUpTo evidence (last + 1) := by
  intro sequence low high
  by_cases top : sequence = last + 1
  · rw [top]
    exact ⟨current, found, isComplete⟩
  · exact complete sequence low (by omega)

/-- A sequence above the one behind the prefix spoils every clear verdict. -/
theorem not_clear_of_above {evidence : Evidence} {frontier higher : Nat}
    (present : evidence.Present higher) (above : frontier + 1 < higher) :
    ¬(Verdict.ready frontier).Clear evidence ∧
      ¬(Verdict.failure frontier).Clear evidence ∧
      ¬(Verdict.incomplete frontier).Clear evidence := by
  refine ⟨?_, ?_, ?_⟩
  · rintro ⟨exactly, _⟩
    have bounds := (exactly higher).mp present
    omega
  · rintro ⟨exactly, _⟩
    have bounds := (exactly higher).mp present
    omega
  · rintro ⟨exactly, _⟩
    have bounds := (exactly higher).mp present
    omega

/-- The outcome of the walk: some verdict holds and is reported. -/
def Decided (evidence : Evidence) (result : Except String ResumeStatus) :
    Prop :=
  ∃ status verdict, result = .ok status ∧
    Verdict.Reported status verdict ∧ Verdict.Holds evidence verdict

theorem decided_inconsistent {evidence : Evidence} (campaignId : String)
    (frontier : Nat) (sequence : Option Nat) (reason : String)
    (holds : Verdict.inconsistent.Holds evidence) :
    Decided evidence
      (.ok (inconsistent campaignId frontier sequence reason)) :=
  ⟨_, .inconsistent, rfl, rfl, holds⟩

/-- One sequence behind a complete prefix that is itself not complete is
decided at once. -/
theorem decided_open {evidence : Evidence} {frontier : Nat}
    {current : SequenceEvidence}
    (complete : CompleteUpTo evidence frontier)
    (found : evidence.get? (frontier + 1) = some current)
    (notComplete : ¬current.Complete)
    (notFailed : ¬current.Failed) (notNonterminal : ¬current.Nonterminal) :
    Verdict.inconsistent.Holds evidence := by
  have here : ∀ property : SequenceEvidence → Prop,
      EvidenceAt evidence (frontier + 1) property → property current := by
    rintro property ⟨other, same, holds⟩
    rw [found] at same
    cases same
    exact holds
  refine inconsistent_of_firstOpen
    ⟨complete, fun complete => notComplete (here _ complete)⟩ ?_
    (fun clear => notFailed (here _ clear.2.2))
    (fun clear => notNonterminal (here _ clear.2.2))
  rintro ⟨exactly, _⟩
  have bounds := (exactly (frontier + 1)).mp
    (by simp [OrderedMap.Present, found])
  omega

/-- A failed or unfinished sequence behind the prefix decides the verdict,
unless higher sequences have evidence. -/
theorem presentExactly_succ {evidence : Evidence} {frontier : Nat}
    {current : SequenceEvidence} (numbered : Numbered evidence)
    (complete : CompleteUpTo evidence frontier)
    (found : evidence.get? (frontier + 1) = some current)
    (nothingAbove : evidence.firstAbove (frontier + 1) = none) :
    PresentExactly evidence (frontier + 1) := by
  refine presentExactly_of_firstAbove numbered ?_
    ((OrderedMap.firstAbove_eq_none _ _).mp nothingAbove)
  intro sequence low high
  by_cases top : sequence = frontier + 1
  · simp [OrderedMap.Present, top, found]
  · exact complete.present low (by omega)

theorem inconsistent_of_firstAbove {evidence : Evidence}
    {frontier higher : Nat}
    (complete : CompleteUpTo evidence frontier)
    (notComplete : ¬EvidenceAt evidence (frontier + 1)
      SequenceEvidence.Complete)
    (above : evidence.firstAbove (frontier + 1) = some higher) :
    Verdict.inconsistent.Holds evidence := by
  obtain ⟨other, present, greater⟩ :=
    (OrderedMap.firstAbove_isSome evidence (frontier + 1)).mp
      (by rw [above]; rfl)
  obtain ⟨notReady, notFailure, notIncomplete⟩ :=
    not_clear_of_above present greater
  exact inconsistent_of_firstOpen ⟨complete, notComplete⟩ notReady notFailure
    notIncomplete

/-- The walk from behind a complete prefix decides the verdict. -/
theorem reconcileFrom_decided {campaignId : String} {evidence : Evidence}
    (valid : ValidCampaignId campaignId) (numbered : Numbered evidence)
    (frontier : Nat) (bounded : frontier + 1 ≤ u64Max)
    (complete : CompleteUpTo evidence frontier) :
    Decided evidence
      (reconcileFrom campaignId evidence frontier (frontier + 1)) := by
  induction remaining : u64Max - (frontier + 1) using Nat.strong_induction_on
    generalizing frontier with
  | _ remaining ih =>
      unfold reconcileFrom
      cases found : evidence.get? (frontier + 1) with
      | none =>
          have notComplete : ¬EvidenceAt evidence (frontier + 1)
              SequenceEvidence.Complete := by
            rintro ⟨current, same, _⟩
            rw [found] at same
            cases same
          cases above : evidence.firstAbove (frontier + 1) with
          | some higher =>
              exact decided_inconsistent _ _ _ _
                (inconsistent_of_firstAbove complete notComplete above)
          | none =>
              simp only [readyStatus,
                planIteration_planOf valid (Nat.succ_pos frontier), ok_bind]
              refine ⟨_, .ready frontier, rfl, ⟨rfl, rfl, rfl⟩, ?_, complete,
                bounded⟩
              have nothingAbove :=
                (OrderedMap.firstAbove_eq_none _ _).mp above
              refine presentExactly_of_firstAbove numbered
                (fun sequence low high => complete.present low high) ?_
              intro sequence present
              have below := nothingAbove sequence present
              have different : sequence ≠ frontier + 1 := by
                rintro rfl
                simp [OrderedMap.Present, found] at present
              omega
      | some current =>
          simp only
          split_ifs with duplicated conflicting eventOnly fileOnly failed
            succeeded next begun
          · -- Neither kind of terminal event may occur twice.
            refine decided_inconsistent _ _ _ _
              (decided_open complete found ?_ ?_ ?_)
            · intro isComplete
              have one := isComplete.1
              have none := isComplete.2.2.1
              omega
            · intro isFailed
              have one := isFailed.2.1
              have none := isFailed.2.2.1
              omega
            · intro nonterminal
              have none := nonterminal.2.1
              have also := nonterminal.2.2.1
              omega
          · refine decided_inconsistent _ _ _ _
              (decided_open complete found ?_ ?_ ?_)
            · intro isComplete
              have files := isComplete.2.2.2
              have events := isComplete.2.2.1
              omega
            · intro isFailed
              have events := isFailed.2.2.1
              have file := isFailed.2.2.2
              rcases conflicting.1 with event | single
              · omega
              · rw [file] at single
                cases single
            · intro nonterminal
              have files := nonterminal.2.2.2.2
              have events := nonterminal.2.2.1
              omega
          · refine decided_inconsistent _ _ _ _
              (decided_open complete found ?_ ?_ ?_)
            · intro isComplete
              have single := isComplete.2.1
              rw [eventOnly.2] at single
              cases single
            · intro isFailed
              have events := isFailed.2.2.1
              omega
            · intro nonterminal
              have events := nonterminal.2.1
              omega
          · refine decided_inconsistent _ _ _ _
              (decided_open complete found ?_ ?_ ?_)
            · intro isComplete
              exact fileOnly.2 isComplete.1
            · intro isFailed
              have file := isFailed.2.2.2
              rw [fileOnly.1] at file
              cases file
            · intro nonterminal
              have file := nonterminal.2.2.2.1
              rw [fileOnly.1] at file
              cases file
          · have isFailed : current.Failed := by
              have noSuccess : ¬(current.terminalSuccessEvents = 1 ∨
                  current.iterationSuccess = true) :=
                fun success => conflicting ⟨success, failed⟩
              simp only [not_or, Bool.not_eq_true] at noSuccess
              refine ⟨by omega, by omega, by omega, noSuccess.2⟩
            have notComplete : ¬EvidenceAt evidence (frontier + 1)
                SequenceEvidence.Complete := by
              rintro ⟨other, same, isComplete⟩
              rw [found] at same
              cases same
              exact isComplete.not_failed isFailed
            cases above : evidence.firstAbove (frontier + 1) with
            | some higher =>
                exact decided_inconsistent _ _ _ _
                  (inconsistent_of_firstAbove complete notComplete above)
            | none =>
                exact ⟨_, .failure frontier, rfl, ⟨rfl, rfl, rfl⟩,
                  presentExactly_succ numbered complete found above, complete,
                  current, found, isFailed⟩
          · have isComplete : current.Complete :=
              ⟨succeeded.2, succeeded.1, by omega, by omega⟩
            exact ih _ (by omega) (frontier + 1) next
              (complete.succ found isComplete) rfl
          · -- All numbers are used up, and no further one can be present.
            have isComplete : current.Complete :=
              ⟨succeeded.2, succeeded.1, by omega, by omega⟩
            have all := complete.succ found isComplete
            have isOpen : FirstOpen evidence (frontier + 1) := by
              refine ⟨all, ?_⟩
              rintro ⟨other, beyond, _⟩
              have range := numbered (frontier + 1 + 1)
                (by simp [OrderedMap.Present, beyond])
              omega
            refine decided_inconsistent _ _ _ _
              (inconsistent_of_firstOpen isOpen ?_ ?_ ?_)
            · rintro ⟨_, _, room⟩
              omega
            · rintro ⟨exactly, _⟩
              have range := numbered (frontier + 1 + 1)
                ((exactly (frontier + 1 + 1)).mpr (by omega))
              omega
            · rintro ⟨exactly, _⟩
              have range := numbered (frontier + 1 + 1)
                ((exactly (frontier + 1 + 1)).mpr (by omega))
              omega
          · have nonterminal : current.Nonterminal := by
              simp only [not_or, not_and] at failed fileOnly
              have single : current.iterationSuccess = false := by
                cases file : current.iterationSuccess with
                | false => rfl
                | true =>
                    have one : current.terminalSuccessEvents = 1 := by
                      by_contra other
                      exact fileOnly file other
                    exact absurd ⟨file, one⟩ succeeded
              have noEvent : current.terminalSuccessEvents ≠ 1 :=
                fun one => eventOnly ⟨one, single⟩
              exact ⟨begun, by omega, by omega, single, by omega⟩
            have notComplete : ¬EvidenceAt evidence (frontier + 1)
                SequenceEvidence.Complete := by
              rintro ⟨other, same, isComplete⟩
              rw [found] at same
              cases same
              exact isComplete.not_nonterminal nonterminal
            cases above : evidence.firstAbove (frontier + 1) with
            | some higher =>
                exact decided_inconsistent _ _ _ _
                  (inconsistent_of_firstAbove complete notComplete above)
            | none =>
                exact ⟨_, .incomplete frontier, rfl, ⟨rfl, rfl, rfl⟩,
                  presentExactly_succ numbered complete found above, complete,
                  current, found, nonterminal⟩
          · refine decided_inconsistent _ _ _ _
              (decided_open complete found ?_ ?_ ?_)
            · intro isComplete
              exact succeeded ⟨isComplete.2.1, isComplete.1⟩
            · intro isFailed
              rcases isFailed.1 with files | events
              · exact failed (Or.inr files)
              · exact failed (Or.inl events)
            · exact fun nonterminal => begun nonterminal.1

theorem reconcileSequences_decided {campaignId : String} {evidence : Evidence}
    (valid : ValidCampaignId campaignId) (numbered : Numbered evidence) :
    Decided evidence (reconcileSequences campaignId evidence) :=
  reconcileFrom_decided valid numbered 0 (by decide)
    (fun sequence low high => by omega)

end Endurance
