/-
The issues of a repository and the calls that the audits make: pages of a list
that is kept newest first, a new issue at its front, a change of the issue with
a number, a comment on it.

Issues and pull requests share the list and the numbers.  The service behind the
calls is given from outside, with what it is documented to do; issues that are
deleted or transferred are left out.
-/

import Mathlib.Data.List.Nodup
import OxideWorkloads.Foundation.GrowingFeed

namespace AuditIssue

open Foundation (GrowingFeed.page GrowingFeed.unread)

inductive IssueState where
  | opened
  | closed
  deriving DecidableEq

structure Content where
  isPullRequest : Bool
  title : String
  body : Option String
  labels : List String
  state : IssueState
  stateReason : Option String
  comments : List String
  deriving DecidableEq

structure Issue where
  number : Nat
  content : Content
  deriving DecidableEq

/-- All issues, those with the greater numbers first. -/
structure Tracker where
  issues : List Issue
  newestFirst : (issues.map Issue.number).Pairwise (fun new old => old < new)

namespace Tracker

def numbers (tracker : Tracker) : List Nat :=
  tracker.issues.map Issue.number

def next (tracker : Tracker) : Nat :=
  tracker.numbers.head?.getD 0 + 1

theorem lt_next (tracker : Tracker) :
    ∀ number ∈ tracker.numbers, number < tracker.next := by
  have sorted : tracker.numbers.Pairwise (fun new old => old < new) :=
    tracker.newestFirst
  intro number member
  unfold next
  cases listed : tracker.numbers with
  | nil =>
      rw [listed] at member
      exact absurd member List.not_mem_nil
  | cons newest rest =>
      rw [listed] at member sorted
      rw [List.head?_cons, Option.getD_some]
      rcases List.mem_cons.mp member with same | older
      · omega
      · have below := (List.pairwise_cons.mp sorted).1 number older
        omega

/-- A new issue, at the front; numbers may have been skipped. -/
def file (tracker : Tracker) (gap : Nat) (content : Content) : Tracker where
  issues := { number := tracker.next + gap, content } :: tracker.issues
  newestFirst := List.pairwise_cons.mpr
    ⟨fun number member => Nat.lt_add_right gap (tracker.lt_next number member),
      tracker.newestFirst⟩

def changeIssue (number : Nat) (edit : Content → Content) (issue : Issue) :
    Issue :=
  if issue.number = number then
    { issue with content := edit issue.content }
  else issue

@[simp] theorem changeIssue_number (number : Nat) (edit : Content → Content)
    (issue : Issue) :
    (changeIssue number edit issue).number = issue.number := by
  unfold changeIssue
  split <;> rfl

theorem map_changeIssue (number : Nat) (edit : Content → Content)
    (issues : List Issue) :
    (issues.map (changeIssue number edit)).map Issue.number =
      issues.map Issue.number := by
  rw [List.map_map]
  exact List.map_congr_left fun issue _ => changeIssue_number number edit issue

/-- A change of the issue with a number. -/
def change (tracker : Tracker) (number : Nat) (edit : Content → Content) :
    Tracker where
  issues := tracker.issues.map (changeIssue number edit)
  newestFirst := by
    rw [map_changeIssue]
    exact tracker.newestFirst

@[simp] theorem numbers_file (tracker : Tracker) (gap : Nat)
    (content : Content) :
    (tracker.file gap content).numbers =
      (tracker.next + gap) :: tracker.numbers :=
  rfl

@[simp] theorem numbers_change (tracker : Tracker) (number : Nat)
    (edit : Content → Content) :
    (tracker.change number edit).numbers = tracker.numbers :=
  map_changeIssue number edit tracker.issues

/-- The content of the issue with a number. -/
def get? (tracker : Tracker) (number : Nat) : Option Content :=
  (tracker.issues.find? (fun issue => issue.number = number)).map
    Issue.content

theorem number_of_find {issues : List Issue} {number : Nat} {issue : Issue}
    (found : issues.find? (fun issue => issue.number = number) = some issue) :
    issue.number = number := by
  have holds := List.find?_some found
  exact of_decide_eq_true holds

theorem get?_eq_some {tracker : Tracker} {number : Nat} {content : Content} :
    tracker.get? number = some content ↔
      { number, content } ∈ tracker.issues := by
  have nodup : tracker.numbers.Nodup :=
    tracker.newestFirst.imp (fun below => Nat.ne_of_gt below)
  constructor
  · intro found
    obtain ⟨issue, isIssue, same⟩ := Option.map_eq_some_iff.mp found
    have sameNumber := number_of_find isIssue
    have member := List.mem_of_find?_eq_some isIssue
    rw [← sameNumber, ← same]
    exact member
  · intro member
    unfold get?
    cases found : tracker.issues.find? (fun issue => issue.number = number) with
    | none =>
        have absent := List.find?_eq_none.mp found _ member
        exact absurd (decide_eq_true rfl) absent
    | some issue =>
        have sameNumber := number_of_find found
        have same := List.inj_on_of_nodup_map nodup
          (List.mem_of_find?_eq_some found) member sameNumber
        rw [same]
        rfl

theorem mem_numbers {tracker : Tracker} {number : Nat} :
    number ∈ tracker.numbers ↔
      ∃ content, tracker.get? number = some content := by
  unfold numbers
  rw [List.mem_map]
  constructor
  · intro listed
    obtain ⟨issue, member, same⟩ := listed
    rw [← same]
    exact ⟨issue.content, get?_eq_some.mpr member⟩
  · intro found
    obtain ⟨content, present⟩ := found
    exact ⟨_, get?_eq_some.mp present, rfl⟩

theorem get?_next (tracker : Tracker) (gap : Nat) :
    tracker.get? (tracker.next + gap) = none := by
  cases found : tracker.get? (tracker.next + gap) with
  | none => rfl
  | some content =>
      have below := tracker.lt_next _ (mem_numbers.mpr ⟨content, found⟩)
      omega

theorem get?_file (tracker : Tracker) (gap : Nat) (content : Content)
    (number : Nat) :
    (tracker.file gap content).get? number =
      if number = tracker.next + gap then some content
      else tracker.get? number := by
  unfold get? file
  rw [List.find?_cons]
  by_cases same : number = tracker.next + gap
  · simp [same]
  · simp [same, Ne.symm same]

theorem get?_change (tracker : Tracker) (changed : Nat)
    (edit : Content → Content) (number : Nat) :
    (tracker.change changed edit).get? number =
      if number = changed then (tracker.get? number).map edit
      else tracker.get? number := by
  unfold get? change
  rw [List.find?_map]
  have sameTest : (fun issue : Issue => decide (issue.number = number)) ∘
      changeIssue changed edit =
        fun issue => decide (issue.number = number) := by
    funext issue
    simp
  rw [sameTest]
  cases found : tracker.issues.find? (fun issue => issue.number = number) with
  | none => simp
  | some issue =>
      have sameNumber := number_of_find found
      by_cases same : number = changed
      · simp [changeIssue, sameNumber, same]
      · simp [changeIssue, sameNumber, same]

end Tracker

/-! ### The calls -/

/-- The fields of an update; the absent ones stay. -/
structure IssueUpdate where
  title : Option String
  body : Option String
  labels : Option (List String)
  state : Option IssueState
  stateReason : Option String

def IssueUpdate.apply (payload : IssueUpdate) (content : Content) : Content :=
  { content with
    title := payload.title.getD content.title
    body := payload.body.or content.body
    labels := payload.labels.getD content.labels
    state := payload.state.getD content.state
    stateReason := payload.stateReason.or content.stateReason }

def Content.addComment (text : String) (content : Content) : Content :=
  { content with comments := content.comments ++ [text] }

/-- The calls of the client; the pages are of a hundred issues. -/
inductive Call where
  | allIssues (page : Nat)
  | createIssue (title body : String) (labels : List String)
  | updateIssue (number : Nat) (payload : IssueUpdate)
  | comment (number : Nat) (body : String)

inductive Answer where
  | items (issues : List Issue)
  | created (number : Nat)
  | accepted
  | refused (error : String)

def perPage : Nat := 100

/-- What a new issue of the client is like. -/
def newIssue (title body : String) (labels : List String) : Content :=
  { isPullRequest := false
    title
    body := some body
    labels
    state := .opened
    stateReason := none
    comments := [] }

/-! ### The service -/

/-- What the service answers to a call and makes of the issues, as documented:
it may refuse any call, and then it has changed nothing. -/
inductive Serves (tracker : Tracker) : Call → Answer → Tracker → Prop where
  | refused (call : Call) (error : String) :
      Serves tracker call (.refused error) tracker
  | listed (page : Nat) :
      Serves tracker (.allIssues page)
        (.items (GrowingFeed.page perPage page tracker.issues)) tracker
  | created (title body : String) (labels : List String) (gap : Nat) :
      Serves tracker (.createIssue title body labels)
        (.created (tracker.next + gap))
        (tracker.file gap (newIssue title body labels))
  | updated (number : Nat) (payload : IssueUpdate)
      (there : number ∈ tracker.numbers) :
      Serves tracker (.updateIssue number payload) .accepted
        (tracker.change number payload.apply)
  | commented (number : Nat) (body : String)
      (there : number ∈ tracker.numbers) :
      Serves tracker (.comment number body) .accepted
        (tracker.change number (Content.addComment body))

/-- The service: what it does with a call may be different each time. -/
abbrev Service : Type := Nat → Tracker → Call → Answer × Tracker

def Documented (service : Service) : Prop :=
  ∀ moment tracker call, Serves tracker call
    (service moment tracker call).1 (service moment tracker call).2

/-- A change of an issue, refused where there is none. -/
def Tracker.changed (tracker : Tracker) (number : Nat)
    (edit : Content → Content) : Answer × Tracker :=
  if number ∈ tracker.numbers then
    (.accepted, tracker.change number edit)
  else (.refused "404", tracker)

/-- A service that does all it can, with bodies up to a length. -/
def willingService (longest : Nat) : Service := fun _ tracker call =>
  match call with
  | .allIssues number =>
      (.items (GrowingFeed.page perPage number tracker.issues), tracker)
  | .createIssue title body labels =>
      if body.length ≤ longest then
        (.created tracker.next, tracker.file 0 (newIssue title body labels))
      else (.refused "422", tracker)
  | .updateIssue number payload =>
      if (payload.body.getD "").length ≤ longest then
        tracker.changed number payload.apply
      else (.refused "422", tracker)
  | .comment number body =>
      if body.length ≤ longest then
        tracker.changed number (Content.addComment body)
      else (.refused "422", tracker)

theorem willingService_documented (longest : Nat) :
    Documented (willingService longest) := by
  intro moment tracker call
  cases call with
  | allIssues number => exact Serves.listed number
  | createIssue title body labels =>
      dsimp only [willingService]
      split
      · exact Serves.created title body labels 0
      · exact Serves.refused _ _
  | updateIssue number payload =>
      dsimp only [willingService, Tracker.changed]
      split
      · split
        · exact Serves.updated number payload ‹_›
        · exact Serves.refused _ _
      · exact Serves.refused _ _
  | comment number body =>
      dsimp only [willingService, Tracker.changed]
      split
      · split
        · exact Serves.commented number body ‹_›
        · exact Serves.refused _ _
      · exact Serves.refused _ _

end AuditIssue
