/-
What several audits keep, in whatever order their calls and the changes of
others come: each marker is in one issue at most, and no audit changes an issue
that has none.

An audit creates an issue only after it has read all of them without finding
one; new issues come in front of what it has not read, and only the audit itself
gives an issue its marker.
-/

import OxideWorkloads.Ci.AuditIssue

namespace AuditIssue

open Foundation

variable {ι : Type} (markers : ι → String)

/-- A request of an audit: its body has the marker of the audit, and no other
one. -/
structure Proper (audit : ι) (request : ReconcileRequest) : Prop where
  marker : request.marker = markers audit
  marked : (markers audit).toList <:+: request.body.toList
  only : ∀ other, (markers other).toList <:+: request.body.toList →
    other = audit

/-- Others give no issue a marker, and make no issue a pull request or the
other way round; an audit starts with a request of its own. -/
def Allowed (system : System ι) : Event ι → Prop
  | .file _ content => ∀ audit, ¬content.Bears (markers audit)
  | .edit number change =>
      ∀ content, system.tracker.get? number = some content →
        (change content).isPullRequest = content.isPullRequest ∧
          ∀ audit, (change content).Bears (markers audit) →
            content.Bears (markers audit)
  | .start audit request => Proper markers audit request
  | _ => True

/-- Something holds of each event of a run when it comes. -/
def Along [DecidableEq ι] (service : Service)
    (holds : System ι → Event ι → Prop) : List (Event ι) → System ι → Prop
  | [], _ => True
  | event :: rest, system =>
      holds system event ∧
        Along service holds rest (system.step service event)

/-! ### The invariant -/

/-- The issue with a number bears the marker of an audit. -/
def Tracker.Marked (tracker : Tracker) (audit : ι) (number : Nat) : Prop :=
  ∃ content, tracker.get? number = some content ∧
    content.Bears (markers audit)

/-- The numbers that a run goes on with. -/
def Phase.refers : Phase → List Nat
  | .finding _ found => found.map Issue.number
  | .recovering number => [number]
  | .closing number => [number]
  | .creating => []
  | .updating owned => [owned.number]
  | .remaining number => [number]
  | .ended _ => []

/-- The numbers that a run may still come upon. -/
def Phase.Ahead (tracker : Tracker) (number : Nat) : Phase → Prop
  | .finding page _ =>
      number ∈ GrowingFeed.unread perPage page tracker.numbers
  | .ended _ => True
  | _ => False

def Phase.Counts : Phase → Prop
  | .finding page _ => 1 ≤ page
  | _ => True

/-- An audit has marked the issue, or is about to. -/
def System.Claims (system : System ι) (audit : ι) (number : Nat) : Prop :=
  system.tracker.Marked markers audit number ∨
    ∃ run, system.runs audit = some run ∧ number ∈ run.phase.refers

/-- What a run knows: it goes on with every issue that bears its marker, or is
still to come upon it. -/
structure RunSound (tracker : Tracker) (audit : ι) (run : Run) : Prop where
  proper : Proper markers audit run.request
  counts : run.phase.Counts
  knows : ∀ number, tracker.Marked markers audit number →
    number ∈ run.phase.refers ∨ run.phase.Ahead tracker number
  there : ∀ number ∈ run.phase.refers,
    ∃ content, tracker.get? number = some content ∧
      content.isPullRequest = false

structure Sound (system : System ι) : Prop where
  unique : ∀ audit first second,
    system.tracker.Marked markers audit first →
      system.tracker.Marked markers audit second → first = second
  apart : ∀ number audit other, system.Claims markers audit number →
    system.Claims markers other number → audit = other
  runs : ∀ audit run, system.runs audit = some run →
    RunSound markers system.tracker audit run

/-! ### What a change of the tracker does -/

/-- Issues are added in front only, and pull requests stay what they are. -/
structure Grows (tracker after : Tracker) : Prop where
  numbers : after.numbers = tracker.numbers ∨
    ∃ gap, after.numbers = (tracker.next + gap) :: tracker.numbers
  kinds : ∀ number content, tracker.get? number = some content →
    ∃ changed, after.get? number = some changed ∧
      changed.isPullRequest = content.isPullRequest

/-- The audit has no issue after a change that it had not before. -/
def NoneMarked (tracker after : Tracker) (audit : ι) : Prop :=
  ∀ number, after.Marked markers audit number →
    tracker.Marked markers audit number

variable {markers}

theorem Grows.refl (tracker : Tracker) : Grows tracker tracker where
  numbers := Or.inl rfl
  kinds := fun _ content found => ⟨content, found, rfl⟩

theorem Grows.file (tracker : Tracker) (gap : Nat) (content : Content) :
    Grows tracker (tracker.file gap content) where
  numbers := Or.inr ⟨gap, Tracker.numbers_file tracker gap content⟩
  kinds := by
    intro number old found
    refine ⟨old, ?_, rfl⟩
    have older : number ≠ tracker.next + gap := by
      intro same
      rw [same, Tracker.get?_next] at found
      cases found
    rw [Tracker.get?_file, if_neg older]
    exact found

theorem Grows.change {tracker : Tracker} {changed : Nat}
    {edit : Content → Content}
    (kind : ∀ content, tracker.get? changed = some content →
      (edit content).isPullRequest = content.isPullRequest) :
    Grows tracker (tracker.change changed edit) where
  numbers := Or.inl (Tracker.numbers_change tracker changed edit)
  kinds := by
    intro number content found
    rw [Tracker.get?_change]
    by_cases same : number = changed
    · rw [if_pos same, found]
      rw [same] at found
      exact ⟨edit content, rfl, kind content found⟩
    · rw [if_neg same]
      exact ⟨content, found, rfl⟩

theorem Grows.unread {tracker after : Tracker} (grows : Grows tracker after)
    {page number : Nat}
    (member : number ∈ GrowingFeed.unread perPage page tracker.numbers) :
    number ∈ GrowingFeed.unread perPage page after.numbers := by
  rcases grows.numbers with same | longer
  · rw [same]
    exact member
  · obtain ⟨gap, longer⟩ := longer
    rw [longer]
    exact GrowingFeed.unread_grow member

theorem NoneMarked.file {tracker : Tracker} {gap : Nat} {content : Content}
    {audit : ι} (unmarked : ¬content.Bears (markers audit)) :
    NoneMarked markers tracker (tracker.file gap content) audit := by
  intro number marked
  obtain ⟨found, isFound, bears⟩ := marked
  rw [Tracker.get?_file] at isFound
  by_cases same : number = tracker.next + gap
  · rw [if_pos same] at isFound
    rw [← Option.some.inj isFound] at bears
    exact absurd bears unmarked
  · rw [if_neg same] at isFound
    exact ⟨found, isFound, bears⟩

theorem NoneMarked.change {tracker : Tracker} {changed : Nat}
    {edit : Content → Content} {audit : ι}
    (unmarked : ∀ content, tracker.get? changed = some content →
      (edit content).Bears (markers audit) → content.Bears (markers audit)) :
    NoneMarked markers tracker (tracker.change changed edit) audit := by
  intro number marked
  obtain ⟨found, isFound, bears⟩ := marked
  rw [Tracker.get?_change] at isFound
  by_cases same : number = changed
  · rw [if_pos same, Option.map_eq_some_iff] at isFound
    obtain ⟨content, before, edited⟩ := isFound
    rw [← edited] at bears
    rw [same] at before
    rw [same]
    exact ⟨content, before, unmarked content before bears⟩
  · rw [if_neg same] at isFound
    exact ⟨found, isFound, bears⟩

theorem Grows.ahead {tracker after : Tracker} (grows : Grows tracker after)
    {number : Nat} {phase : Phase} (ahead : phase.Ahead tracker number) :
    phase.Ahead after number := by
  cases phase with
  | finding page found => exact grows.unread ahead
  | ended result => trivial
  | recovering other => exact ahead
  | closing other => exact ahead
  | creating => exact ahead
  | updating owned => exact ahead
  | remaining other => exact ahead

/-- What a run knows it still knows when others have gone on. -/
theorem RunSound.others {tracker after : Tracker} {audit : ι} {run : Run}
    (sound : RunSound markers tracker audit run)
    (grows : Grows tracker after)
    (unmarked : NoneMarked markers tracker after audit) :
    RunSound markers after audit run where
  proper := sound.proper
  counts := sound.counts
  knows := by
    intro number marked
    rcases sound.knows number (unmarked number marked) with refers | ahead
    · exact Or.inl refers
    · exact Or.inr (grows.ahead ahead)
  there := by
    intro number member
    obtain ⟨content, found, kind⟩ := sound.there number member
    obtain ⟨changed, isChanged, same⟩ := grows.kinds number content found
    exact ⟨changed, isChanged, same.trans kind⟩

/-! ### What a call does -/

section

variable {tracker after : Tracker} {audit : ι} {run : Run} {call : Call}
  {answer : Answer}

theorem newIssue_bears {title body marker : String} {labels : List String} :
    (newIssue title body labels).Bears marker ↔
      marker.toList <:+: body.toList :=
  and_iff_right rfl

/-- A change that a call makes: of an issue that the run goes on with, with the
body of the request or the old one. -/
structure Edits (request : ReconcileRequest) (edit : Content → Content) :
    Prop where
  kind : ∀ content, (edit content).isPullRequest = content.isPullRequest
  body : ∀ content, (edit content).body = content.body ∨
    (edit content).body = some request.body

theorem Edits.addComment (request : ReconcileRequest) (text : String) :
    Edits request (Content.addComment text) where
  kind := fun _ => rfl
  body := fun _ => Or.inl rfl

theorem Edits.close (request : ReconcileRequest) :
    Edits request ReconcileRequest.closePayload.apply where
  kind := fun _ => rfl
  body := fun _ => Or.inl rfl

theorem Edits.update (request : ReconcileRequest) (owned : Issue) :
    Edits request (request.updatePayload owned).apply where
  kind := fun _ => rfl
  body := by
    intro content
    unfold ReconcileRequest.updatePayload
    split
    · exact Or.inr rfl
    · exact Or.inr rfl

theorem Edits.bears {edit : Content → Content}
    (edits : Edits run.request edit) (proper : Proper markers audit run.request)
    {other : ι} {content : Content}
    (bears : (edit content).Bears (markers other)) :
    content.Bears (markers other) ∨ other = audit := by
  rcases edits.body content with same | written
  · left
    unfold Content.Bears at bears ⊢
    rw [edits.kind, same] at bears
    exact bears
  · right
    have marked := bears.2
    rw [written, Option.getD_some] at marked
    exact proper.only other marked

/-- What the tracker may become by a call of a run. -/
inductive Becomes (tracker : Tracker) (run : Run) : Tracker → Prop where
  | same : Becomes tracker run tracker
  | filed (gap : Nat) (creating : run.phase = .creating) :
      Becomes tracker run (tracker.file gap (newIssue run.request.title
        run.request.body run.request.labels))
  | changed {number : Nat} {edit : Content → Content}
      (refers : run.phase.refers = [number])
      (edits : Edits run.request edit)
      (behind : ∀ other, ¬run.phase.Ahead tracker other) :
      Becomes tracker run (tracker.change number edit)

theorem serves_becomes (serves : Serves tracker call answer after)
    (calls : run.request.call run.phase = some call) :
    Becomes tracker run after := by
  cases phase : run.phase with
  | finding page found =>
      rw [phase] at calls
      cases calls
      cases serves <;> exact Becomes.same
  | recovering number =>
      rw [phase] at calls
      cases calls
      cases serves with
      | refused => exact Becomes.same
      | commented =>
          exact Becomes.changed (by rw [phase]; rfl) (Edits.addComment _ _)
            (by rw [phase]; exact fun _ ahead => ahead)
  | closing number =>
      rw [phase] at calls
      cases calls
      cases serves with
      | refused => exact Becomes.same
      | updated =>
          exact Becomes.changed (by rw [phase]; rfl) (Edits.close _)
            (by rw [phase]; exact fun _ ahead => ahead)
  | creating =>
      rw [phase] at calls
      cases calls
      cases serves with
      | refused => exact Becomes.same
      | created => exact Becomes.filed _ phase
  | updating owned =>
      rw [phase] at calls
      cases calls
      cases serves with
      | refused => exact Becomes.same
      | updated =>
          exact Becomes.changed (by rw [phase]; rfl) (Edits.update _ _)
            (by rw [phase]; exact fun _ ahead => ahead)
  | remaining number =>
      rw [phase] at calls
      cases calls
      cases serves with
      | refused => exact Becomes.same
      | commented =>
          exact Becomes.changed (by rw [phase]; rfl) (Edits.addComment _ _)
            (by rw [phase]; exact fun _ ahead => ahead)
  | ended result =>
      rw [phase] at calls
      cases calls

theorem Becomes.grows (becomes : Becomes tracker run after) :
    Grows tracker after := by
  cases becomes with
  | same => exact Grows.refl tracker
  | filed gap creating => exact Grows.file tracker gap _
  | changed refers edits behind =>
      exact Grows.change fun content _ => edits.kind content

theorem Becomes.others (becomes : Becomes tracker run after)
    (proper : Proper markers audit run.request) {other : ι}
    (different : other ≠ audit) : NoneMarked markers tracker after other := by
  cases becomes with
  | same => exact fun _ marked => marked
  | filed gap creating =>
      apply NoneMarked.file
      rw [newIssue_bears]
      exact fun marked => different (proper.only other marked)
  | changed refers edits behind =>
      apply NoneMarked.change
      intro content _ bears
      rcases edits.bears proper bears with before | same
      · exact before
      · exact absurd same different

/-- What bears the marker after a call did so before, or the run goes on with
it, or it is the new issue. -/
theorem Becomes.marked (becomes : Becomes tracker run after) {number : Nat}
    (marked : after.Marked markers audit number) :
    tracker.Marked markers audit number ∨ number ∈ run.phase.refers ∨
      run.phase = .creating ∧ tracker.next ≤ number := by
  cases becomes with
  | same => exact Or.inl marked
  | filed gap creating =>
      obtain ⟨content, found, bears⟩ := marked
      rw [Tracker.get?_file] at found
      by_cases same : number = tracker.next + gap
      · exact Or.inr (Or.inr ⟨creating, by omega⟩)
      · rw [if_neg same] at found
        exact Or.inl ⟨content, found, bears⟩
  | @changed changed edit refers edits behind =>
      obtain ⟨content, found, bears⟩ := marked
      rw [Tracker.get?_change] at found
      by_cases same : number = changed
      · right
        left
        rw [refers, same]
        exact List.mem_cons_self
      · rw [if_neg same] at found
        exact Or.inl ⟨content, found, bears⟩

/-! ### What a run knows after a call -/

theorem ended_sound (proper : Proper markers audit run.request)
    (result : Except String String) :
    RunSound markers tracker audit { run with phase := .ended result } where
  proper := proper
  counts := trivial
  knows := fun _ _ => Or.inr trivial
  there := fun _ none => absurd none List.not_mem_nil

theorem Marked.there {number : Nat}
    (marked : tracker.Marked markers audit number) :
    ∃ content, tracker.get? number = some content ∧
      content.isPullRequest = false := by
  obtain ⟨content, found, bears⟩ := marked
  exact ⟨content, found, bears.1⟩

/-- The end of the reading, once every issue that bears the marker has been
found. -/
theorem findOwnedIssue_sound {found : List Issue}
    (proper : Proper markers audit run.request)
    (complete : ∀ number, tracker.Marked markers audit number →
      number ∈ found.map Issue.number)
    (there : ∀ number ∈ found.map Issue.number,
      ∃ content, tracker.get? number = some content ∧
        content.isPullRequest = false) :
    RunSound markers tracker audit
      { run with phase := run.request.findOwnedIssue found } := by
  have only : ∀ phase : Phase, phase.refers = found.map Issue.number →
      phase.Counts →
      RunSound markers tracker audit { run with phase := phase } := by
    intro phase refers counts
    exact {
      proper
      counts
      knows := fun number marked => Or.inl (by
        rw [refers]
        exact complete number marked)
      there := by
        rw [refers]
        exact there }
  match found with
  | [] =>
      rw [ReconcileRequest.findOwnedIssue, ReconcileRequest.settle]
      by_cases clean : run.request.isClean = true
      · rw [if_pos clean]
        exact ended_sound proper _
      · rw [if_neg clean]
        exact only .creating rfl trivial
  | [issue] =>
      rw [ReconcileRequest.findOwnedIssue, ReconcileRequest.settle]
      by_cases clean : run.request.isClean = true
      · rw [if_pos clean]
        by_cases isOpen : issue.content.state = .opened
        · simp only [if_pos isOpen]
          exact only (.recovering issue.number) rfl trivial
        · simp only [if_neg isOpen]
          exact ended_sound proper _
      · rw [if_neg clean]
        exact only (.updating issue) rfl trivial
  | _ :: _ :: _ => exact ended_sound proper _

/-- What bears the marker and is on a page is found there. -/
theorem mem_matching (proper : Proper markers audit run.request)
    {page number : Nat} (marked : tracker.Marked markers audit number)
    (onPage : number ∈ GrowingFeed.page perPage page tracker.numbers) :
    number ∈ (run.request.matching
      (GrowingFeed.page perPage page tracker.issues)).map Issue.number := by
  rw [Tracker.numbers, GrowingFeed.page_map] at onPage
  obtain ⟨issue, listed, same⟩ := List.mem_map.mp onPage
  obtain ⟨content, found, bears⟩ := marked
  have here : tracker.get? issue.number = some issue.content :=
    Tracker.get?_eq_some.mpr (GrowingFeed.page_subset listed)
  rw [same, found] at here
  rw [Option.some.inj here, ← proper.marker] at bears
  rw [← same]
  exact List.mem_map_of_mem
    (List.mem_filter.mpr ⟨listed, decide_eq_true bears⟩)

/-- What is found on a page bears the marker. -/
theorem marked_of_matching (proper : Proper markers audit run.request)
    {page : Nat} {issue : Issue}
    (member : issue ∈ run.request.matching
      (GrowingFeed.page perPage page tracker.issues)) :
    tracker.get? issue.number = some issue.content ∧
      tracker.Marked markers audit issue.number := by
  obtain ⟨listed, bears⟩ := List.mem_filter.mp member
  have here : tracker.get? issue.number = some issue.content :=
    Tracker.get?_eq_some.mpr (GrowingFeed.page_subset listed)
  have marked := of_decide_eq_true bears
  rw [proper.marker] at marked
  exact ⟨here, issue.content, here, marked⟩

theorem next_items {request : ReconcileRequest} {page : Nat}
    {found items : List Issue} :
    request.next (.finding page found) (.items items) =
      if items = [] then request.findOwnedIssue found
      else if items.length < perPage then
        request.findOwnedIssue (found ++ request.matching items)
      else .finding (page + 1) (found ++ request.matching items) :=
  rfl

/-- The answer to a page of the issues: what was found so far and on the page
is all there is, or the rest is on the pages behind it. -/
theorem read_found {page : Nat} {found : List Issue}
    (sound : RunSound markers tracker audit run)
    (phase : run.phase = .finding page found) :
    ∃ now, now.Sublist (run.request.matching
        (GrowingFeed.page perPage page tracker.issues)) ∧
      ((run.request.next (.finding page found)
          (.items (GrowingFeed.page perPage page tracker.issues)) =
            run.request.findOwnedIssue (found ++ now) ∧
        ∀ number, tracker.Marked markers audit number →
          number ∈ (found ++ now).map Issue.number) ∨
      (run.request.next (.finding page found)
          (.items (GrowingFeed.page perPage page tracker.issues)) =
            .finding (page + 1) (found ++ now) ∧
        ∀ number, tracker.Marked markers audit number →
          number ∈ (found ++ now).map Issue.number ∨
            number ∈ GrowingFeed.unread perPage (page + 1)
              tracker.numbers)) := by
  have counts := sound.counts
  have knows := sound.knows
  rw [phase] at counts knows
  have length : (GrowingFeed.page perPage page tracker.numbers).length =
      (GrowingFeed.page perPage page tracker.issues).length := by
    rw [Tracker.numbers, GrowingFeed.page_map, List.length_map]
  rw [next_items]
  by_cases none : GrowingFeed.page perPage page tracker.issues = []
  · refine ⟨[], List.nil_sublist _, Or.inl ?_⟩
    rw [if_pos none, List.append_nil]
    refine ⟨rfl, ?_⟩
    intro number marked
    rcases knows number marked with before | unread
    · exact before
    · have onPage := GrowingFeed.unread_last counts (by
        rw [length, none]
        decide) unread
      rw [Tracker.numbers, GrowingFeed.page_map, none] at onPage
      exact absurd onPage List.not_mem_nil
  · refine ⟨_, List.Sublist.refl _, ?_⟩
    rw [if_neg none]
    by_cases short : (GrowingFeed.page perPage page tracker.issues).length <
        perPage
    · rw [if_pos short]
      refine Or.inl ⟨rfl, ?_⟩
      intro number marked
      rw [List.map_append, List.mem_append]
      rcases knows number marked with before | unread
      · exact Or.inl before
      · exact Or.inr (mem_matching sound.proper marked
          (GrowingFeed.unread_last counts (length ▸ short) unread))
    · rw [if_neg short]
      refine Or.inr ⟨rfl, ?_⟩
      intro number marked
      rw [List.map_append, List.mem_append]
      rcases knows number marked with before | unread
      · exact Or.inl (Or.inl before)
      · rcases GrowingFeed.unread_page counts unread with onPage | behind
        · exact Or.inl (Or.inr (mem_matching sound.proper marked onPage))
        · exact Or.inr behind.2

theorem RunSound.read {page : Nat} {found : List Issue}
    (sound : RunSound markers tracker audit run)
    (phase : run.phase = .finding page found) :
    RunSound markers tracker audit
      { run with
        phase := run.request.next (.finding page found)
          (.items (GrowingFeed.page perPage page tracker.issues)) } := by
  have there := sound.there
  rw [phase] at there
  obtain ⟨now, onPage, reads⟩ := read_found sound phase
  have more : ∀ number ∈ (found ++ now).map Issue.number,
      ∃ content, tracker.get? number = some content ∧
        content.isPullRequest = false := by
    intro number member
    rw [List.map_append] at member
    rcases List.mem_append.mp member with before | listed
    · exact there number before
    · obtain ⟨issue, isNow, same⟩ := List.mem_map.mp listed
      rw [← same]
      exact Marked.there (marked_of_matching sound.proper (onPage.subset isNow)).2
  rcases reads with ⟨isNext, complete⟩ | ⟨isNext, further⟩
  · rw [isNext]
    exact findOwnedIssue_sound sound.proper complete more
  · rw [isNext]
    exact ⟨sound.proper, Nat.le_add_left 1 page, further, more⟩

/-- A run that goes on with the same issue. -/
theorem RunSound.goesOn (sound : RunSound markers tracker audit run)
    (becomes : Becomes tracker run after) {number : Nat} {phase : Phase}
    (refers : run.phase.refers = [number]) (same : phase.refers = [number])
    (behind : ∀ other, ¬run.phase.Ahead tracker other)
    (counts : phase.Counts) :
    RunSound markers after audit { run with phase := phase } where
  proper := sound.proper
  counts := counts
  knows := by
    intro other marked
    left
    rw [same, ← refers]
    rcases becomes.marked marked with before | listed | created
    · rcases sound.knows other before with listed | ahead
      · exact listed
      · exact absurd ahead (behind other)
    · exact listed
    · rw [created.1] at refers
      cases refers
  there := by
    intro other member
    rw [same, ← refers] at member
    obtain ⟨content, found, kind⟩ := sound.there other member
    obtain ⟨changed, isChanged, sameKind⟩ :=
      becomes.grows.kinds other content found
    exact ⟨changed, isChanged, sameKind.trans kind⟩

theorem next_refused (request : ReconcileRequest) (phase : Phase)
    (error : String) :
    request.next phase (.refused error) = .ended (.error error) := by
  cases phase <;> rfl

/-- After a call and its answer a run knows what it has to know. -/
theorem RunSound.answered (sound : RunSound markers tracker audit run)
    (calls : run.request.call run.phase = some call)
    (serves : Serves tracker call answer after) :
    RunSound markers after audit
      { run with phase := run.request.next run.phase answer } := by
  have becomes := serves_becomes serves calls
  -- a refusal ends the run, whatever it was about to do
  have refused : ∀ {error : String}, answer = .refused error →
      RunSound markers after audit
        { run with phase := run.request.next run.phase answer } := by
    intro error isAnswer
    rw [isAnswer, next_refused]
    exact ended_sound sound.proper _
  cases phase : run.phase with
  | finding page found =>
      rw [phase] at calls refused
      cases calls
      cases serves with
      | refused => exact refused rfl
      | listed => exact sound.read phase
  | recovering number =>
      rw [phase] at calls refused
      cases calls
      cases serves with
      | refused => exact refused rfl
      | commented =>
          exact sound.goesOn becomes (by rw [phase]; rfl) rfl
            (by rw [phase]; exact fun _ ahead => ahead) trivial
  | closing number =>
      rw [phase] at calls refused
      cases calls
      cases serves with
      | refused => exact refused rfl
      | updated => exact ended_sound sound.proper _
  | creating =>
      rw [phase] at calls refused
      cases calls
      cases serves with
      | refused => exact refused rfl
      | created => exact ended_sound sound.proper _
  | updating owned =>
      rw [phase] at calls refused
      cases calls
      cases serves with
      | refused => exact refused rfl
      | updated =>
          exact sound.goesOn becomes (by rw [phase]; rfl) rfl
            (by rw [phase]; exact fun _ ahead => ahead) trivial
  | remaining number =>
      rw [phase] at calls refused
      cases calls
      cases serves with
      | refused => exact refused rfl
      | commented => exact ended_sound sound.proper _
  | ended result =>
      rw [phase] at calls
      cases calls

end

end AuditIssue
