/-
Runs of several audits on one tracker: what every event keeps, and what it
leaves alone.
-/

import OxideWorkloads.Ci.AuditIssueSound

namespace AuditIssue

open Foundation

variable {ι : Type} {markers : ι → String} {system : System ι} {audit : ι}

/-! ### One event -/

theorem Sound.known (sound : Sound markers system) {number : Nat}
    (claims : system.Claims markers audit number) :
    number ∈ system.tracker.numbers := by
  rcases claims with marked | going
  · obtain ⟨content, found, _⟩ := marked
    exact Tracker.mem_numbers.mpr ⟨content, found⟩
  · obtain ⟨run, isRun, refers⟩ := going
    obtain ⟨content, found, _⟩ := (sound.runs audit run isRun).there number
      refers
    exact Tracker.mem_numbers.mpr ⟨content, found⟩

/-- A change of the tracker by others. -/
theorem Sound.outside {tracker : Tracker} (sound : Sound markers system)
    (grows : Grows system.tracker tracker)
    (unmarked : ∀ audit, NoneMarked markers system.tracker tracker audit) :
    Sound markers { system with tracker := tracker } where
  unique := fun audit first second one other => sound.unique audit first second
    (unmarked audit first one) (unmarked audit second other)
  apart := by
    intro number audit other claims again
    have before : ∀ audit, System.Claims markers
        { system with tracker := tracker } audit number →
          system.Claims markers audit number := by
      intro audit claims
      rcases claims with marked | going
      · exact Or.inl (unmarked audit number marked)
      · exact Or.inr going
    exact sound.apart number audit other (before audit claims)
      (before other again)
  runs := fun audit run isRun =>
    (sound.runs audit run isRun).others grows (unmarked audit)

/-- What an event of one audit does. -/
structure Moves (markers : ι → String) (audit : ι) (system after : System ι) :
    Prop where
  grows : Grows system.tracker after.tracker
  others : ∀ other, other ≠ audit →
    NoneMarked markers system.tracker after.tracker other
  still : ∀ other, other ≠ audit → after.runs other = system.runs other
  claims : ∀ number, after.Claims markers audit number →
    system.Claims markers audit number ∨ system.tracker.next ≤ number
  frame : ∀ number ∈ system.tracker.numbers,
    ¬system.Claims markers audit number →
      after.tracker.get? number = system.tracker.get? number
  unique : ∀ first second, after.tracker.Marked markers audit first →
    after.tracker.Marked markers audit second → first = second
  sound : ∀ run, after.runs audit = some run →
    RunSound markers after.tracker audit run

theorem Sound.moves {after : System ι} (sound : Sound markers system)
    (moves : Moves markers audit system after) : Sound markers after where
  unique := by
    intro other first second one two
    by_cases same : other = audit
    · rw [same] at one two
      exact moves.unique first second one two
    · exact sound.unique other first second (moves.others other same first one)
        (moves.others other same second two)
  apart := by
    -- A claim of another audit was there before, so it is not on a new issue.
    have before : ∀ number other, other ≠ audit →
        after.Claims markers other number →
          system.Claims markers other number := by
      intro number other different claims
      rcases claims with marked | going
      · exact Or.inl (moves.others other different number marked)
      · obtain ⟨run, isRun, refers⟩ := going
        rw [moves.still other different] at isRun
        exact Or.inr ⟨run, isRun, refers⟩
    have meets : ∀ number other, other ≠ audit →
        after.Claims markers audit number →
          after.Claims markers other number → audit = other := by
      intro number other different claims again
      have theirs := before number other different again
      rcases moves.claims number claims with ours | fresh
      · exact sound.apart number audit other ours theirs
      · have below := system.tracker.lt_next number (sound.known theirs)
        omega
    intro number first second one two
    by_cases isFirst : first = audit
    · by_cases isSecond : second = audit
      · rw [isFirst, isSecond]
      · rw [isFirst] at one ⊢
        exact meets number second isSecond one two
    · by_cases isSecond : second = audit
      · rw [isSecond] at two ⊢
        exact (meets number first isFirst two one).symm
      · exact sound.apart number first second
          (before number first isFirst one) (before number second isSecond two)
  runs := by
    intro other run isRun
    by_cases same : other = audit
    · rw [same] at isRun ⊢
      exact moves.sound run isRun
    · rw [moves.still other same] at isRun
      exact (sound.runs other run isRun).others moves.grows
        (moves.others other same)

/-- The numbers that a reading leads to are those that were found. -/
theorem findOwnedIssue_refers {request : ReconcileRequest}
    {found : List Issue} :
    (request.findOwnedIssue found).refers ⊆ found.map Issue.number := by
  intro number refers
  match found with
  | [] =>
      rw [ReconcileRequest.findOwnedIssue, ReconcileRequest.settle] at refers
      split at refers
      · exact refers
      · exact refers
  | [issue] =>
      rw [ReconcileRequest.findOwnedIssue, ReconcileRequest.settle] at refers
      split at refers
      · split at refers
        · exact refers
        · exact absurd refers List.not_mem_nil
      · exact refers
  | _ :: _ :: _ => exact absurd refers List.not_mem_nil

/-- The numbers that a run goes on with after an answer are those from before,
or they bear its marker. -/
theorem next_refers {run : Run} {call : Call} {answer : Answer}
    {tracker after : Tracker} (proper : Proper markers audit run.request)
    (calls : run.request.call run.phase = some call)
    (serves : Serves tracker call answer after) {number : Nat}
    (refers : number ∈ (run.request.next run.phase answer).refers) :
    number ∈ run.phase.refers ∨ tracker.Marked markers audit number := by
  have refused : ∀ {error : String}, answer = .refused error →
      number ∈ run.phase.refers ∨ tracker.Marked markers audit number := by
    intro error isAnswer
    rw [isAnswer, next_refused] at refers
    exact absurd refers List.not_mem_nil
  cases phase : run.phase with
  | finding page found =>
      rw [phase] at calls refers refused
      cases calls
      cases serves with
      | refused => exact refused rfl
      | listed =>
          have found_or : number ∈ (found ++ run.request.matching
              (GrowingFeed.page perPage page tracker.issues)).map
                Issue.number →
              number ∈ found.map Issue.number ∨
                tracker.Marked markers audit number := by
            intro member
            rw [List.map_append] at member
            rcases List.mem_append.mp member with before | now
            · exact Or.inl before
            · obtain ⟨issue, onPage, same⟩ := List.mem_map.mp now
              rw [← same]
              exact Or.inr (marked_of_matching proper onPage).2
          rw [next_items] at refers
          split at refers
          · exact Or.inl (findOwnedIssue_refers refers)
          · split at refers
            · exact found_or (findOwnedIssue_refers refers)
            · exact found_or refers
  | recovering owned =>
      rw [phase] at calls refers refused
      cases calls
      cases serves with
      | refused => exact refused rfl
      | commented => exact Or.inl refers
  | closing owned =>
      rw [phase] at calls refers refused
      cases calls
      cases serves with
      | refused => exact refused rfl
      | updated => exact absurd refers List.not_mem_nil
  | creating =>
      rw [phase] at calls refers refused
      cases calls
      cases serves with
      | refused => exact refused rfl
      | created => exact absurd refers List.not_mem_nil
  | updating owned =>
      rw [phase] at calls refers refused
      cases calls
      cases serves with
      | refused => exact refused rfl
      | updated => exact Or.inl refers
  | remaining owned =>
      rw [phase] at calls refers refused
      cases calls
      cases serves with
      | refused => exact refused rfl
      | commented => exact absurd refers List.not_mem_nil
  | ended result =>
      rw [phase] at calls
      cases calls

/-- A call changes no issue but the one that the run goes on with. -/
theorem Becomes.frame {tracker after : Tracker} {run : Run}
    (becomes : Becomes tracker run after) {number : Nat}
    (known : number ∈ tracker.numbers)
    (other : number ∉ run.phase.refers) :
    after.get? number = tracker.get? number := by
  cases becomes with
  | same => rfl
  | filed gap creating =>
      have below := tracker.lt_next number known
      rw [Tracker.get?_file, if_neg (by omega)]
  | changed refers edits behind =>
      rw [refers, List.mem_singleton] at other
      rw [Tracker.get?_change, if_neg other]

/-- After a call the marker of the audit is in one issue at most. -/
theorem Becomes.unique {tracker after : Tracker} {run : Run}
    (becomes : Becomes tracker run after)
    (runSound : RunSound markers tracker audit run)
    (unique : ∀ first second, tracker.Marked markers audit first →
      tracker.Marked markers audit second → first = second)
    (first second : Nat) (one : after.Marked markers audit first)
    (two : after.Marked markers audit second) : first = second := by
  cases becomes with
  | same => exact unique first second one two
  | filed gap creating =>
      have none : ∀ number, ¬tracker.Marked markers audit number := by
        intro number marked
        have knows := runSound.knows number marked
        rw [creating] at knows
        rcases knows with refers | ahead
        · exact absurd refers List.not_mem_nil
        · exact ahead
      have isNew : ∀ {number : Nat}, (tracker.file gap (newIssue
          run.request.title run.request.body run.request.labels)).Marked
            markers audit number → number = tracker.next + gap := by
        intro number marked
        obtain ⟨content, found, bears⟩ := marked
        rw [Tracker.get?_file] at found
        by_contra old
        rw [if_neg old] at found
        exact none number ⟨content, found, bears⟩
      rw [isNew one, isNew two]
  | @changed owned edit refers edits behind =>
      have became : Becomes tracker run (tracker.change owned edit) :=
        Becomes.changed refers edits behind
      have isOwned : ∀ {number : Nat},
          tracker.Marked markers audit number ∨ number ∈ run.phase.refers ∨
            run.phase = .creating ∧ tracker.next ≤ number →
              number = owned := by
        intro number cases
        have listed : number ∈ run.phase.refers := by
          rcases cases with marked | listed | created
          · rcases runSound.knows number marked with listed | ahead
            · exact listed
            · exact absurd ahead (behind number)
          · exact listed
          · rw [created.1] at refers
            cases refers
        rw [refers] at listed
        exact List.mem_singleton.mp listed
      rw [isOwned (became.marked one), isOwned (became.marked two)]

section

variable [DecidableEq ι] {service : Service}

/-- Another phase of a run, with the tracker as it was. -/
theorem Moves.rephase {run : Run} (sound : Sound markers system)
    (none : run.phase.refers = [])
    (runSound : RunSound markers system.tracker audit run) :
    Moves markers audit system (system.put audit system.tracker run) where
  grows := Grows.refl _
  others := fun _ _ _ marked => marked
  still := fun other different => put_runs_of_ne different
  claims := by
    intro number claims
    rcases claims with marked | going
    · exact Or.inl (Or.inl marked)
    · obtain ⟨other, isRun, refers⟩ := going
      rw [put_runs_self] at isRun
      rw [← Option.some.inj isRun, none] at refers
      exact absurd refers List.not_mem_nil
  frame := fun _ _ _ => rfl
  unique := sound.unique audit
  sound := by
    intro other isRun
    rw [put_runs_self] at isRun
    rw [← Option.some.inj isRun]
    exact runSound

/-- What may follow a call: the end, or what its answer leads to. -/
inductive GoesOn : (Run → Answer → Phase) → Prop where
  | ends (result : Except String String) : GoesOn fun _ _ => .ended result
  | answers : GoesOn fun run answer => run.request.next run.phase answer

/-- A served call. -/
theorem Moves.serve {goOn : Run → Answer → Phase} (goesOn : GoesOn goOn)
    (sound : Sound markers system) {run : Run} {call : Call}
    {answer : Answer} {after : Tracker}
    (isRun : system.runs audit = some run)
    (calls : run.request.call run.phase = some call)
    (serves : Serves system.tracker call answer after) :
    Moves markers audit system
      (system.put audit after { run with phase := goOn run answer }) := by
  have runSound := sound.runs audit run isRun
  have becomes := serves_becomes serves calls
  constructor
  · exact becomes.grows
  · exact fun other different => becomes.others runSound.proper different
  · exact fun other different => put_runs_of_ne different
  · intro number claims
    rcases claims with marked | going
    · rcases becomes.marked marked with before | refers | created
      · exact Or.inl (Or.inl before)
      · exact Or.inl (Or.inr ⟨run, isRun, refers⟩)
      · exact Or.inr created.2
    · obtain ⟨other, isOther, refers⟩ := going
      rw [put_runs_self] at isOther
      rw [← Option.some.inj isOther] at refers
      left
      cases goesOn with
      | ends result => exact absurd refers List.not_mem_nil
      | answers =>
          rcases next_refers runSound.proper calls serves refers with
            before | marked
          · exact Or.inr ⟨run, isRun, before⟩
          · exact Or.inl marked
  · intro number known unclaimed
    exact becomes.frame known fun refers =>
      unclaimed (Or.inr ⟨run, isRun, refers⟩)
  · exact becomes.unique runSound (sound.unique audit)
  · intro other isOther
    rw [put_runs_self] at isOther
    rw [← Option.some.inj isOther]
    cases goesOn with
    | ends result => exact ended_sound runSound.proper result
    | answers => exact runSound.answered calls serves

theorem serve_cases (documented : Documented service) {moment : Nat}
    {goOn : Run → Answer → Phase} (goesOn : GoesOn goOn)
    (sound : Sound markers system) :
    system.serve service audit moment goOn = system ∨
      Moves markers audit system
        (system.serve service audit moment goOn) := by
  unfold System.serve
  cases isRun : system.runs audit with
  | none => exact Or.inl rfl
  | some run =>
      dsimp only
      cases calls : run.request.call run.phase with
      | none => exact Or.inl rfl
      | some call =>
          exact Or.inr (Moves.serve goesOn sound isRun calls
            (documented moment system.tracker call))

/-- The audit whose event it is. -/
def Event.actor : Event ι → Option ι
  | .file _ _ => none
  | .edit _ _ => none
  | .start audit _ => some audit
  | .answered audit _ => some audit
  | .unanswered audit _ => some audit
  | .lost audit => some audit

/-- A change by others leaves the runs alone and marks nothing. -/
theorem outside_step {event : Event ι} (outside : event.actor = none)
    (allowed : Allowed markers system event) :
    (system.step service event).runs = system.runs ∧
      Grows system.tracker (system.step service event).tracker ∧
      ∀ audit, NoneMarked markers system.tracker
        (system.step service event).tracker audit := by
  cases event with
  | file gap content =>
      exact ⟨rfl, Grows.file _ _ _, fun audit => NoneMarked.file (allowed audit)⟩
  | edit number change =>
      refine ⟨rfl, Grows.change fun content found =>
        (allowed content found).1, ?_⟩
      intro audit
      exact NoneMarked.change fun content found =>
        (allowed content found).2 audit
  | start audit request => cases outside
  | answered audit moment => cases outside
  | unanswered audit moment => cases outside
  | lost audit => cases outside

/-- An event of an audit. -/
theorem inside_step (documented : Documented service) {event : Event ι}
    (inside : event.actor = some audit) (sound : Sound markers system) (allowed : Allowed markers system event) :
    system.step service event = system ∨
      Moves markers audit system (system.step service event) := by
  cases event with
  | file gap content => cases inside
  | edit number change => cases inside
  | start other request =>
      cases inside
      rw [System.step]
      by_cases idle : system.idle audit = true
      · rw [if_pos idle]
        refine Or.inr (Moves.rephase sound rfl ?_)
        exact {
          proper := allowed
          counts := Nat.le_refl 1
          knows := by
            intro number marked
            obtain ⟨content, found, _⟩ := marked
            right
            rw [Phase.Ahead, GrowingFeed.unread_one]
            exact Tracker.mem_numbers.mpr ⟨content, found⟩
          there := fun _ none => absurd none List.not_mem_nil }
      · rw [if_neg idle]
        exact Or.inl rfl
  | answered other moment =>
      cases inside
      exact serve_cases documented GoesOn.answers sound
  | unanswered other moment =>
      cases inside
      exact serve_cases documented (GoesOn.ends (.error "no answer")) sound
  | lost other =>
      cases inside
      rw [System.step]
      cases isRun : system.runs audit with
      | none => exact Or.inl rfl
      | some run =>
          exact Or.inr (Moves.rephase sound rfl
            (ended_sound (sound.runs audit run isRun).proper _))

theorem Sound.step (documented : Documented service) {event : Event ι}
    (sound : Sound markers system) (allowed : Allowed markers system event) :
    Sound markers (system.step service event) := by
  cases acts : event.actor with
  | none =>
      obtain ⟨same, grows, unmarked⟩ := outside_step acts allowed
      have kept := sound.outside grows unmarked
      rw [← same] at kept
      exact kept
  | some audit =>
      rcases inside_step documented acts sound allowed with same | moves
      · rw [same]
        exact sound
      · exact sound.moves moves

/-! ### Whole runs -/

theorem Along.mono {holds weaker : System ι → Event ι → Prop}
    (weakens : ∀ system event, holds system event → weaker system event)
    {events : List (Event ι)} (along : Along service holds events system) :
    Along service weaker events system := by
  induction events generalizing system with
  | nil => trivial
  | cons event rest ih => exact ⟨weakens system event along.1, ih along.2⟩

theorem Along.split {holds : System ι → Event ι → Prop}
    {before after : List (Event ι)}
    (along : Along service holds (before ++ after) system) :
    Along service holds before system ∧
      Along service holds after (system.run service before) := by
  induction before generalizing system with
  | nil => exact ⟨trivial, along⟩
  | cons event rest ih =>
      obtain ⟨early, late⟩ := ih along.2
      exact ⟨⟨along.1, early⟩, late⟩

theorem run_append (before after : List (Event ι)) :
    system.run service (before ++ after) =
      (system.run service before).run service after :=
  List.foldl_append

theorem run_snoc (before : List (Event ι)) (event : Event ι) :
    system.run service (before ++ [event]) =
      (system.run service before).step service event :=
  run_append before [event]

theorem run_two (first second : Event ι) :
    system.run service [first, second] =
      (system.step service first).step service second :=
  rfl

theorem Sound.run (documented : Documented service)
    {events : List (Event ι)} (sound : Sound markers system)
    (allowed : Along service (Allowed markers) events system) :
    Sound markers (system.run service events) := by
  induction events generalizing system with
  | nil => exact sound
  | cons event rest ih => exact ih (sound.step documented allowed.1) allowed.2

/-- No audit is at work, each marker is in one issue at most, and no issue has
two of them. -/
structure Quiet (markers : ι → String) (system : System ι) : Prop where
  still : ∀ audit, system.runs audit = none
  unique : ∀ audit first second,
    system.tracker.Marked markers audit first →
      system.tracker.Marked markers audit second → first = second
  apart : ∀ number audit other, system.tracker.Marked markers audit number →
    system.tracker.Marked markers other number → audit = other

omit [DecidableEq ι] in
theorem Quiet.sound (quiet : Quiet markers system) : Sound markers system where
  unique := quiet.unique
  apart := by
    have marked : ∀ number audit, system.Claims markers audit number →
        system.tracker.Marked markers audit number := by
      intro number audit claims
      rcases claims with marked | going
      · exact marked
      · obtain ⟨run, isRun, _⟩ := going
        rw [quiet.still audit] at isRun
        cases isRun
    intro number audit other claims again
    exact quiet.apart number audit other (marked number audit claims)
      (marked number other again)
  runs := by
    intro audit run isRun
    rw [quiet.still audit] at isRun
    cases isRun

/-- An issue that no audit claims stays unclaimed. -/
theorem unclaimed_step (documented : Documented service) {event : Event ι}
    {number : Nat} (sound : Sound markers system) (allowed : Allowed markers system event)
    (known : number ∈ system.tracker.numbers)
    (unclaimed : ∀ audit, ¬system.Claims markers audit number) :
    ∀ audit, ¬(system.step service event).Claims markers audit number := by
  intro other claims
  cases acts : event.actor with
  | none =>
      obtain ⟨same, _, unmarked⟩ := outside_step acts allowed
      rcases claims with marked | going
      · exact unclaimed other (Or.inl (unmarked other number marked))
      · rw [same] at going
        exact unclaimed other (Or.inr going)
  | some audit =>
      rcases inside_step documented acts sound allowed with same | moves
      · rw [same] at claims
        exact unclaimed other claims
      · by_cases isOwn : other = audit
        · rw [isOwn] at claims
          rcases moves.claims number claims with before | fresh
          · exact unclaimed audit before
          · have below := system.tracker.lt_next number known
            omega
        · rcases claims with marked | going
          · exact unclaimed other
              (Or.inl (moves.others other isOwn number marked))
          · rw [moves.still other isOwn] at going
            exact unclaimed other (Or.inr going)

omit [DecidableEq ι] in
theorem Grows.known {tracker after : Tracker} (grows : Grows tracker after)
    {number : Nat} (known : number ∈ tracker.numbers) :
    number ∈ after.numbers := by
  rcases grows.numbers with same | longer
  · rw [same]
    exact known
  · obtain ⟨gap, longer⟩ := longer
    rw [longer]
    exact List.mem_cons_of_mem _ known

theorem known_step (documented : Documented service) {event : Event ι}
    {number : Nat} (sound : Sound markers system) (allowed : Allowed markers system event)
    (known : number ∈ system.tracker.numbers) :
    number ∈ (system.step service event).tracker.numbers := by
  cases acts : event.actor with
  | none => exact (outside_step acts allowed).2.1.known known
  | some audit =>
      rcases inside_step documented acts sound allowed with same | moves
      · rw [same]
        exact known
      · exact moves.grows.known known

/-- A change by others does the same to an issue in any two systems. -/
theorem outside_same {event : Event ι} {alone : System ι} {number : Nat}
    (outside : event.actor = none)
    (known : number ∈ system.tracker.numbers)
    (same : alone.tracker.get? number = system.tracker.get? number) :
    (alone.step service event).tracker.get? number =
      (system.step service event).tracker.get? number := by
  have knownAlone : number ∈ alone.tracker.numbers := by
    rw [Tracker.mem_numbers, same]
    exact Tracker.mem_numbers.mp known
  cases event with
  | file gap content =>
      have below := system.tracker.lt_next number known
      have belowAlone := alone.tracker.lt_next number knownAlone
      change (alone.tracker.file gap content).get? number =
        (system.tracker.file gap content).get? number
      rw [Tracker.get?_file, Tracker.get?_file, if_neg (by omega),
        if_neg (by omega), same]
  | edit changed change =>
      change (alone.tracker.change changed change).get? number =
        (system.tracker.change changed change).get? number
      rw [Tracker.get?_change, Tracker.get?_change, same]
  | start audit request => cases outside
  | answered audit moment => cases outside
  | unanswered audit moment => cases outside
  | lost audit => cases outside

/-- An issue that no audit claims has at any moment the content that the
changes of others alone have given it. -/
theorem unclaimed_run {events : List (Event ι)} {alone : System ι}
    {number : Nat} (documented : Documented service)
    (sound : Sound markers system)
    (allowed : Along service (Allowed markers) events system)
    (known : number ∈ system.tracker.numbers)
    (unclaimed : ∀ audit, ¬system.Claims markers audit number)
    (same : alone.tracker.get? number = system.tracker.get? number) :
    (system.run service events).tracker.get? number =
      (alone.run service (events.filter
        (fun event => event.actor.isNone))).tracker.get? number := by
  induction events generalizing system alone with
  | nil => exact same.symm
  | cons event rest ih =>
      have later := unclaimed_step documented sound allowed.1 known unclaimed
      have sound' := sound.step documented allowed.1
      have known' := known_step documented sound allowed.1 known
      cases acts : event.actor with
      | none =>
          rw [List.filter_cons, acts, if_pos Option.isNone_none]
          exact ih sound' allowed.2 known' later
            (outside_same acts known same)
      | some audit =>
          rw [List.filter_cons, acts, Option.isNone_some,
            if_neg Bool.false_ne_true]
          apply ih sound' allowed.2 known' later
          rcases inside_step documented acts sound allowed.1 with still | moves
          · rw [still]
            exact same
          · rw [moves.frame number known (unclaimed audit)]
            exact same

end

end AuditIssue
