/-
What a run that returned has left behind: no open issue after a clean audit,
one open issue with the title, the body and the labels of the audit otherwise;
and a run that nobody disturbs returns if none of its calls is refused.
-/

import OxideWorkloads.Ci.AuditIssueRuns

namespace AuditIssue

open Foundation

variable {ι : Type} {markers : ι → String} {audit : ι}

/-- An issue that says what the request says. -/
def Reports (markers : ι → String) (request : ReconcileRequest)
    (tracker : Tracker) (audit : ι) (number : Nat) : Prop :=
  ∃ content, tracker.get? number = some content ∧
    content.Bears (markers audit) ∧ content.state = .opened ∧
    content.title = request.title ∧ content.body = some request.body ∧
    content.labels = request.labels

/-- What a request asks for. -/
def Settles (markers : ι → String) (request : ReconcileRequest)
    (tracker : Tracker) (audit : ι) : Prop :=
  if request.isClean then
    ∀ number content, tracker.get? number = some content →
      content.Bears (markers audit) → content.state = .closed
  else ∃ number, Reports markers request tracker audit number

/-- What a run has seen is still so, and its branch is the one of its
request. -/
def Phase.Current (markers : ι → String) (request : ReconcileRequest)
    (tracker : Tracker) (audit : ι) : Phase → Prop
  | .finding _ found => ∀ issue ∈ found,
      tracker.get? issue.number = some issue.content ∧
        tracker.Marked markers audit issue.number
  | .recovering number =>
      request.isClean = true ∧ tracker.Marked markers audit number
  | .closing number =>
      request.isClean = true ∧ tracker.Marked markers audit number
  | .creating => request.isClean = false
  | .updating owned =>
      request.isClean = false ∧
        tracker.get? owned.number = some owned.content ∧
        tracker.Marked markers audit owned.number
  | .remaining number =>
      request.isClean = false ∧
        Reports markers request tracker audit number
  | .ended (.ok _) => Settles markers request tracker audit
  | .ended (.error _) => True

/-- Nothing is done to the issues of an audit. -/
structure Spares (markers : ι → String) (audit : ι) (tracker after : Tracker) :
    Prop where
  unmarked : NoneMarked markers tracker after audit
  same : ∀ number, tracker.Marked markers audit number →
    after.get? number = tracker.get? number

section

variable {tracker after : Tracker} {request : ReconcileRequest}

theorem Spares.marked (spares : Spares markers audit tracker after)
    {number : Nat} (marked : tracker.Marked markers audit number) :
    after.Marked markers audit number := by
  obtain ⟨content, found, bears⟩ := marked
  refine ⟨content, ?_, bears⟩
  rw [spares.same number ⟨content, found, bears⟩]
  exact found

theorem Spares.reports (spares : Spares markers audit tracker after)
    {number : Nat} (reports : Reports markers request tracker audit number) :
    Reports markers request after audit number := by
  obtain ⟨content, found, bears, fields⟩ := reports
  refine ⟨content, ?_, bears, fields⟩
  rw [spares.same number ⟨content, found, bears⟩]
  exact found

theorem Spares.settles (spares : Spares markers audit tracker after)
    (settles : Settles markers request tracker audit) :
    Settles markers request after audit := by
  unfold Settles at settles ⊢
  by_cases clean : request.isClean = true
  · rw [if_pos clean] at settles ⊢
    intro number content found bears
    have marked := spares.unmarked number ⟨content, found, bears⟩
    rw [spares.same number marked] at found
    exact settles number content found bears
  · rw [if_neg clean] at settles ⊢
    obtain ⟨number, reports⟩ := settles
    exact ⟨number, spares.reports reports⟩

theorem Spares.current (spares : Spares markers audit tracker after)
    {phase : Phase} (current : phase.Current markers request tracker audit) :
    phase.Current markers request after audit := by
  cases phase with
  | finding page found =>
      intro issue member
      obtain ⟨same, marked⟩ := current issue member
      rw [spares.same issue.number marked]
      exact ⟨same, spares.marked marked⟩
  | recovering number => exact ⟨current.1, spares.marked current.2⟩
  | closing number => exact ⟨current.1, spares.marked current.2⟩
  | creating => exact current
  | updating owned =>
      obtain ⟨unclean, same, marked⟩ := current
      refine ⟨unclean, ?_, spares.marked marked⟩
      rw [spares.same owned.number marked]
      exact same
  | remaining number => exact ⟨current.1, spares.reports current.2⟩
  | ended result =>
      cases result with
      | error error => trivial
      | ok message => exact spares.settles current

end

/-! ### The run itself -/

section

variable {tracker after : Tracker} {run : Run} {call : Call}
  {answer : Answer}

/-- The end of the reading, with every issue that bears the marker. -/
theorem findOwnedIssue_current {found : List Issue}
    (complete : ∀ number, tracker.Marked markers audit number →
      number ∈ found.map Issue.number)
    (seen : ∀ issue ∈ found,
      tracker.get? issue.number = some issue.content ∧
        tracker.Marked markers audit issue.number) :
    (run.request.findOwnedIssue found).Current markers run.request tracker
      audit := by
  match found with
  | [] =>
      rw [ReconcileRequest.findOwnedIssue, ReconcileRequest.settle]
      by_cases clean : run.request.isClean = true
      · rw [if_pos clean]
        unfold Phase.Current Settles
        rw [if_pos clean]
        intro number content found bears
        exact absurd (complete number ⟨content, found, bears⟩)
          List.not_mem_nil
      · rw [if_neg clean]
        exact Bool.eq_false_iff.mpr clean
  | [issue] =>
      obtain ⟨same, marked⟩ := seen issue List.mem_cons_self
      rw [ReconcileRequest.findOwnedIssue, ReconcileRequest.settle]
      by_cases clean : run.request.isClean = true
      · rw [if_pos clean]
        by_cases isOpen : issue.content.state = .opened
        · simp only [if_pos isOpen]
          exact ⟨clean, marked⟩
        · simp only [if_neg isOpen]
          unfold Phase.Current Settles
          rw [if_pos clean]
          intro number content found bears
          have isIssue := List.mem_singleton.mp
            (complete number ⟨content, found, bears⟩)
          rw [isIssue, same] at found
          rw [← Option.some.inj found]
          cases state : issue.content.state with
          | opened => exact absurd state isOpen
          | closed => rfl
      · rw [if_neg clean]
        exact ⟨Bool.eq_false_iff.mpr clean, same, marked⟩
  | _ :: _ :: _ => trivial

theorem marked_change {number : Nat} {edit : Content → Content}
    (marked : tracker.Marked markers audit number)
    (keeps : ∀ content, content.Bears (markers audit) →
      (edit content).Bears (markers audit)) :
    (tracker.change number edit).Marked markers audit number := by
  obtain ⟨content, found, bears⟩ := marked
  refine ⟨edit content, ?_, keeps content bears⟩
  rw [Tracker.get?_change, if_pos rfl, found]
  rfl

theorem Reports.marked {request : ReconcileRequest} {number : Nat}
    (reports : Reports markers request tracker audit number) :
    tracker.Marked markers audit number := by
  obtain ⟨content, found, bears, _⟩ := reports
  exact ⟨content, found, bears⟩

theorem Reports.addComment {request : ReconcileRequest} {number : Nat}
    (reports : Reports markers request tracker audit number) (text : String) :
    Reports markers request (tracker.change number (Content.addComment text))
      audit number := by
  obtain ⟨content, found, bears, fields⟩ := reports
  refine ⟨content.addComment text, ?_, bears, fields⟩
  rw [Tracker.get?_change, if_pos rfl, found]
  rfl

/-- The update opens the issue, with the fields of the request. -/
theorem update_reports {owned : Issue}
    (proper : Proper markers audit run.request)
    (same : tracker.get? owned.number = some owned.content)
    (marked : tracker.Marked markers audit owned.number) :
    Reports markers run.request (tracker.change owned.number
      (run.request.updatePayload owned).apply) audit owned.number := by
  obtain ⟨content, found, bears⟩ := marked
  rw [same] at found
  rw [← Option.some.inj found] at bears
  refine ⟨(run.request.updatePayload owned).apply owned.content, ?_, ?_⟩
  · rw [Tracker.get?_change, if_pos rfl, same]
    rfl
  · unfold ReconcileRequest.updatePayload
    by_cases isOpen : owned.content.state = .opened
    · rw [if_pos isOpen]
      exact ⟨⟨bears.1, proper.marked⟩, isOpen, rfl, rfl, rfl⟩
    · rw [if_neg isOpen]
      exact ⟨⟨bears.1, proper.marked⟩, rfl, rfl, rfl, rfl⟩

/-- After a call and its answer what the run has seen is so. -/
theorem current_answered (sound : RunSound markers tracker audit run)
    (current : run.phase.Current markers run.request tracker audit)
    (calls : run.request.call run.phase = some call)
    (serves : Serves tracker call answer after) :
    (run.request.next run.phase answer).Current markers run.request after
      audit := by
  have refused : ∀ {error : String}, answer = .refused error →
      (run.request.next run.phase answer).Current markers run.request after
        audit := by
    intro error isAnswer
    rw [isAnswer, next_refused]
    exact trivial
  cases phase : run.phase with
  | finding page found =>
      rw [phase] at calls current refused
      cases calls
      cases serves with
      | refused => exact refused rfl
      | listed =>
          obtain ⟨now, onPage, reads⟩ := read_found sound phase
          have seen : ∀ issue ∈ found ++ now,
              tracker.get? issue.number = some issue.content ∧
                tracker.Marked markers audit issue.number := by
            intro issue member
            rcases List.mem_append.mp member with before | isNow
            · exact current issue before
            · exact marked_of_matching sound.proper (onPage.subset isNow)
          rcases reads with ⟨isNext, complete⟩ | ⟨isNext, _⟩
          · rw [isNext]
            exact findOwnedIssue_current complete seen
          · rw [isNext]
            exact seen
  | recovering number =>
      rw [phase] at calls current refused
      cases calls
      cases serves with
      | refused => exact refused rfl
      | commented =>
          exact ⟨current.1, marked_change current.2 fun _ bears => bears⟩
  | closing number =>
      have knows := sound.knows
      rw [phase] at calls current knows refused
      cases calls
      cases serves with
      | refused => exact refused rfl
      | updated =>
          change Settles markers run.request _ audit
          unfold Settles
          rw [if_pos current.1]
          intro other content found bears
          rw [Tracker.get?_change] at found
          by_cases same : other = number
          · rw [if_pos same, Option.map_eq_some_iff] at found
            obtain ⟨before, _, closed⟩ := found
            rw [← closed]
            rfl
          · rw [if_neg same] at found
            rcases knows other ⟨content, found, bears⟩ with listed | ahead
            · exact absurd (List.mem_singleton.mp listed) same
            · exact absurd ahead id
  | creating =>
      rw [phase] at calls current refused
      cases calls
      cases serves with
      | refused => exact refused rfl
      | created title body labels gap =>
          change Settles markers run.request _ audit
          unfold Settles
          rw [if_neg (Bool.eq_false_iff.mp current)]
          refine ⟨tracker.next + gap, newIssue run.request.title
            run.request.body run.request.labels, ?_, ?_, rfl, rfl, rfl, rfl⟩
          · rw [Tracker.get?_file, if_pos rfl]
          · exact newIssue_bears.mpr sound.proper.marked
  | updating owned =>
      rw [phase] at calls current refused
      cases calls
      cases serves with
      | refused => exact refused rfl
      | updated =>
          obtain ⟨unclean, same, marked⟩ := current
          exact ⟨unclean, update_reports sound.proper same marked⟩
  | remaining number =>
      rw [phase] at calls current refused
      cases calls
      cases serves with
      | refused => exact refused rfl
      | commented =>
          obtain ⟨unclean, reports⟩ := current
          change Settles markers run.request _ audit
          unfold Settles
          rw [if_neg (Bool.eq_false_iff.mp unclean)]
          exact ⟨number, reports.addComment _⟩
  | ended result =>
      rw [phase] at calls
      cases calls

end

/-! ### A run among others -/

section

variable [DecidableEq ι] {service : Service} {system : System ι}
  {request : ReconcileRequest}

/-- Nobody else edits the issues of the audit, and it is not started again. -/
def Calm (markers : ι → String) (audit : ι) (system : System ι) :
    Event ι → Prop
  | .edit number _ => ¬system.tracker.Marked markers audit number
  | .start other _ => other ≠ audit
  | _ => True

/-- A run of a request that has seen what is so. -/
structure UnderWay (markers : ι → String) (audit : ι)
    (request : ReconcileRequest) (system : System ι) : Prop where
  sound : Sound markers system
  current : ∃ phase, system.runs audit = some { request, phase } ∧
    phase.Current markers request system.tracker audit

theorem outside_spares {event : Event ι} (outside : event.actor = none)
    (allowed : Allowed markers system event)
    (calm : Calm markers audit system event) :
    Spares markers audit system.tracker (system.step service event).tracker where
  unmarked := (outside_step outside allowed).2.2 audit
  same := by
    intro number marked
    cases event with
    | file gap content =>
        obtain ⟨old, found, _⟩ := marked
        have below := system.tracker.lt_next number
          (Tracker.mem_numbers.mpr ⟨old, found⟩)
        exact (Tracker.get?_file _ gap content number).trans
          (if_neg (by omega))
    | edit changed change =>
        have other : number ≠ changed := by
          intro same
          rw [same] at marked
          exact calm marked
        exact (Tracker.get?_change _ changed change number).trans
          (if_neg other)
    | start other request => cases outside
    | answered other moment => cases outside
    | unanswered other moment => cases outside
    | lost other => cases outside

omit [DecidableEq ι] in
theorem moves_spares {after : System ι} {other : ι}
    (sound : Sound markers system) (different : audit ≠ other)
    (moves : Moves markers other system after) :
    Spares markers audit system.tracker after.tracker where
  unmarked := moves.others audit different
  same := by
    intro number marked
    have claims : system.Claims markers audit number := Or.inl marked
    apply moves.frame number (sound.known claims)
    intro theirs
    exact different (sound.apart number audit other claims theirs)

/-- The events of the run itself, after its start. -/
theorem own_step (documented : Documented service) {event : Event ι}
    {phase : Phase} (acts : event.actor = some audit) (sound : Sound markers system)
    (calm : Calm markers audit system event)
    (isRun : system.runs audit = some { request, phase })
    (current : phase.Current markers request system.tracker audit) :
    ∃ later, (system.step service event).runs audit =
        some { request, phase := later } ∧
      later.Current markers request (system.step service event).tracker audit := by
  have served : ∀ (moment : Nat) (goOn : Run → Answer → Phase),
      (∀ call answer after, request.call phase = some call →
        Serves system.tracker call answer after →
          (goOn { request, phase } answer).Current markers request after
            audit) →
      ∃ later, (system.serve service audit moment goOn).runs audit =
          some { request, phase := later } ∧
        later.Current markers request
          (system.serve service audit moment goOn).tracker audit := by
    intro moment goOn holds
    unfold System.serve
    rw [isRun]
    dsimp only
    cases calls : request.call phase with
    | none => exact ⟨phase, isRun, current⟩
    | some call =>
        exact ⟨_, put_runs_self, holds call _ _ calls
          (documented moment system.tracker call)⟩
  cases event with
  | file gap content => cases acts
  | edit number change => cases acts
  | start other request =>
      cases acts
      exact absurd rfl calm
  | answered other moment =>
      cases acts
      exact served moment _ fun call answer after calls serves =>
        current_answered (sound.runs audit _ isRun) current calls serves
  | unanswered other moment =>
      cases acts
      exact served moment _ fun _ _ _ _ _ => trivial
  | lost other =>
      cases acts
      rw [System.step, isRun]
      exact ⟨_, put_runs_self, trivial⟩

theorem UnderWay.step (documented : Documented service) {event : Event ι}
    (underWay : UnderWay markers audit request system)
    (allowed : Allowed markers system event)
    (calm : Calm markers audit system event) :
    UnderWay markers audit request (system.step service event) where
  sound := underWay.sound.step documented allowed
  current := by
    obtain ⟨phase, isRun, current⟩ := underWay.current
    cases acts : event.actor with
    | none =>
        refine ⟨phase, ?_, (outside_spares acts allowed calm).current current⟩
        rw [(outside_step acts allowed).1]
        exact isRun
    | some other =>
        by_cases own : other = audit
        · rw [own] at acts
          exact own_step documented acts underWay.sound calm isRun current
        · rcases inside_step documented acts underWay.sound allowed with
            same | moves
          · rw [same]
            exact ⟨phase, isRun, current⟩
          · refine ⟨phase, ?_, (moves_spares underWay.sound
              (Ne.symm own) moves).current current⟩
            rw [moves.still audit (Ne.symm own)]
            exact isRun

theorem UnderWay.run (documented : Documented service)
    {events : List (Event ι)}
    (underWay : UnderWay markers audit request system)
    (calm : Along service (fun system event => Allowed markers system event ∧
      Calm markers audit system event) events system) :
    UnderWay markers audit request (system.run service events) := by
  induction events generalizing system with
  | nil => exact underWay
  | cons event rest ih =>
      exact ih (underWay.step documented calm.1.1 calm.1.2) calm.2

theorem started (documented : Documented service)
    (sound : Sound markers system) (proper : Proper markers audit request)
    (idle : system.idle audit = true) :
    UnderWay markers audit request
      (system.step service (.start audit request)) where
  sound := sound.step documented proper
  current := by
    rw [System.step, if_pos idle]
    exact ⟨_, put_runs_self, fun _ none => absurd none List.not_mem_nil⟩

/-- A run that returned has done what it was asked for. -/
theorem returned_settles (documented : Documented service)
    {events : List (Event ι)} {run : Run} {message : String}
    (sound : Sound markers system) (proper : Proper markers audit request)
    (idle : system.idle audit = true)
    (calm : Along service (fun system event => Allowed markers system event ∧
      Calm markers audit system event) events
        (system.step service (.start audit request)))
    (isRun : ((system.step service (.start audit request)).run service
      events).runs audit = some run)
    (returned : run.phase = .ended (.ok message)) :
    Settles markers request ((system.step service
      (.start audit request)).run service events).tracker audit := by
  obtain ⟨phase, isPhase, current⟩ :=
    ((started documented sound proper idle).run documented calm).current
  rw [isRun] at isPhase
  rw [Option.some.inj isPhase] at returned
  dsimp only at returned
  rw [returned] at current
  exact current

/-! ### A run that nobody disturbs -/

/-- The call that an audit makes and whose answer it sees is not refused. -/
def Granted (service : Service) (system : System ι) : Event ι → Prop
  | .answered audit moment => ∀ run call, system.runs audit = some run →
      run.request.call run.phase = some call →
        ∀ error, (service moment system.tracker call).1 ≠ .refused error
  | _ => True

/-- What was found is on the pages that were read, and nothing has failed. -/
def Phase.Alone (request : ReconcileRequest) (tracker : Tracker) :
    Phase → Prop
  | .finding page found =>
      page ≤ tracker.issues.length / perPage + 1 ∧
        found.Sublist (request.matching
          (tracker.issues.take (perPage * (page - 1))))
  | .ended (.error _) => False
  | _ => True

/-- The calls that a phase still needs, at most. -/
def Phase.calls (total : Nat) : Phase → Nat
  | .finding page _ => total / perPage + 2 - page + 2
  | .recovering _ => 2
  | .updating _ => 2
  | .closing _ => 1
  | .creating => 1
  | .remaining _ => 1
  | .ended _ => 0

omit [DecidableEq ι] in
theorem calls_finding (total page : Nat) (found : List Issue) :
    (Phase.finding page found).calls total =
      total / perPage + 2 - page + 2 :=
  rfl

theorem matching_append (first second : List Issue) :
    request.matching (first ++ second) =
      request.matching first ++ request.matching second :=
  List.filter_append first second

omit [DecidableEq ι] in
/-- What bears the marker of an audit is found once at most. -/
theorem found_length {tracker : Tracker} {found : List Issue}
    (unique : ∀ first second, tracker.Marked markers audit first →
      tracker.Marked markers audit second → first = second)
    (marker : request.marker = markers audit)
    (within : found.Sublist (request.matching tracker.issues)) :
    found.length ≤ 1 := by
  have nodup : (found.map Issue.number).Nodup :=
    (tracker.newestFirst.imp (fun below => Nat.ne_of_gt below)).sublist
      ((within.trans List.filter_sublist).map _)
  have marked : ∀ issue ∈ found,
      tracker.Marked markers audit issue.number := by
    intro issue member
    obtain ⟨listed, bears⟩ := List.mem_filter.mp (within.subset member)
    have isBearing := of_decide_eq_true bears
    rw [marker] at isBearing
    exact ⟨issue.content, Tracker.get?_eq_some.mpr listed, isBearing⟩
  match found with
  | [] => exact Nat.zero_le 1
  | [_] => exact Nat.le_refl 1
  | first :: second :: rest =>
      have parts := List.forall_mem_cons.mp marked
      have later := List.forall_mem_cons.mp parts.2
      have same := unique first.number second.number parts.1 later.1
      have different := (List.nodup_cons.mp nodup).1
      rw [same] at different
      exact absurd List.mem_cons_self different

omit [DecidableEq ι] in
theorem findOwnedIssue_alone {tracker : Tracker} {found : List Issue}
    (length : found.length ≤ 1) :
    (request.findOwnedIssue found).Alone request tracker ∧
      ∀ total, (request.findOwnedIssue found).calls total ≤ 2 := by
  match found with
  | [] =>
      rw [ReconcileRequest.findOwnedIssue, ReconcileRequest.settle]
      split
      · exact ⟨trivial, fun _ => Nat.zero_le 2⟩
      · exact ⟨trivial, fun _ => Nat.le_succ 1⟩
  | [issue] =>
      rw [ReconcileRequest.findOwnedIssue, ReconcileRequest.settle]
      split
      · split
        · exact ⟨trivial, fun _ => Nat.le_refl 2⟩
        · exact ⟨trivial, fun _ => Nat.zero_le 2⟩
      · exact ⟨trivial, fun _ => Nat.le_refl 2⟩
  | _ :: _ :: _ => exact absurd length (by simp)

omit [DecidableEq ι] in
theorem read_alone {tracker : Tracker} {page : Nat} {found : List Issue}
    (unique : ∀ first second, tracker.Marked markers audit first →
      tracker.Marked markers audit second → first = second)
    (marker : request.marker = markers audit) (counts : 1 ≤ page)
    (alone : (Phase.finding page found).Alone request tracker) :
    let later := request.next (.finding page found)
      (.items (GrowingFeed.page perPage page tracker.issues))
    later.Alone request tracker ∧
      later.calls tracker.issues.length <
        (Phase.finding page found).calls tracker.issues.length := by
  intro later
  obtain ⟨bounded, within⟩ := alone
  have joined : (found ++ request.matching
      (GrowingFeed.page perPage page tracker.issues)).Sublist
        (request.matching (tracker.issues.take (perPage * page))) := by
    obtain ⟨before, rfl⟩ := Nat.exists_eq_add_of_le counts
    have taken : perPage * (1 + before) =
        perPage * (1 + before - 1) + perPage := by
      rw [Nat.add_sub_cancel_left, Nat.mul_add, Nat.mul_one, Nat.add_comm]
    rw [taken, List.take_add, matching_append]
    exact within.append (List.Sublist.refl _)
  have once : ∀ {some : List Issue} {count : Nat}, some.Sublist
      (request.matching (tracker.issues.take count)) → some.length ≤ 1 :=
    fun sublist => found_length unique marker
      (sublist.trans ((List.take_sublist _ _).filter _))
  have ends : ∀ {some : List Issue}, some.length ≤ 1 →
      (request.findOwnedIssue some).Alone request tracker ∧
        (request.findOwnedIssue some).calls tracker.issues.length <
          (Phase.finding page found).calls tracker.issues.length := by
    intro some length
    obtain ⟨still, few⟩ := @findOwnedIssue_alone request tracker some length
    have limit := few tracker.issues.length
    have enough : 3 ≤ (Phase.finding page found).calls
        tracker.issues.length := by
      rw [calls_finding]
      omega
    exact ⟨still, by omega⟩
  change (request.next _ _).Alone request tracker ∧
    (request.next _ _).calls _ < _
  rw [next_items]
  split
  · exact ends (once within)
  · split
    · exact ends (once joined)
    · rename_i full
      have hundred : perPage = 100 := rfl
      have filled : perPage * (page - 1) + perPage ≤
          tracker.issues.length := by
        unfold GrowingFeed.page at full
        rw [List.length_take, List.length_drop] at full
        omega
      have further : page ≤ tracker.issues.length / perPage := by
        rw [Nat.le_div_iff_mul_le (by decide), Nat.mul_comm]
        obtain ⟨before, rfl⟩ := Nat.exists_eq_add_of_le counts
        rw [Nat.add_sub_cancel_left] at filled
        rw [Nat.mul_add, Nat.mul_one]
        omega
      refine ⟨⟨by omega, joined⟩, ?_⟩
      rw [calls_finding, calls_finding]
      omega

omit [DecidableEq ι] in
/-- An answer that is no refusal brings the run nearer to its end. -/
theorem alone_answered {tracker after : Tracker} {run : Run} {call : Call}
    {answer : Answer} (sound : RunSound markers tracker audit run)
    (unique : ∀ first second, tracker.Marked markers audit first →
      tracker.Marked markers audit second → first = second)
    (alone : run.phase.Alone run.request tracker)
    (calls : run.request.call run.phase = some call)
    (serves : Serves tracker call answer after)
    (granted : ∀ error, answer ≠ .refused error) :
    (run.request.next run.phase answer).Alone run.request after ∧
      (run.request.next run.phase answer).calls after.issues.length <
        run.phase.calls tracker.issues.length := by
  cases phase : run.phase with
  | finding page found =>
      have counts := sound.counts
      rw [phase] at calls alone counts
      cases calls
      cases serves with
      | refused call error => exact absurd rfl (granted error)
      | listed => exact read_alone unique sound.proper.marker counts alone
  | recovering number =>
      rw [phase] at calls
      cases calls
      cases serves with
      | refused call error => exact absurd rfl (granted error)
      | commented => exact ⟨trivial, Nat.lt_succ_self 1⟩
  | closing number =>
      rw [phase] at calls
      cases calls
      cases serves with
      | refused call error => exact absurd rfl (granted error)
      | updated => exact ⟨trivial, Nat.lt_succ_self 0⟩
  | creating =>
      rw [phase] at calls
      cases calls
      cases serves with
      | refused call error => exact absurd rfl (granted error)
      | created => exact ⟨trivial, Nat.lt_succ_self 0⟩
  | updating owned =>
      rw [phase] at calls
      cases calls
      cases serves with
      | refused call error => exact absurd rfl (granted error)
      | updated => exact ⟨trivial, Nat.lt_succ_self 1⟩
  | remaining number =>
      rw [phase] at calls
      cases calls
      cases serves with
      | refused call error => exact absurd rfl (granted error)
      | commented => exact ⟨trivial, Nat.lt_succ_self 0⟩
  | ended result =>
      rw [phase] at calls
      cases calls

/-- Only a run at its end makes no call. -/
theorem call_eq_none {phase : Phase} (silent : request.call phase = none) :
    ∃ result, phase = .ended result := by
  cases phase with
  | ended result => exact ⟨result, rfl⟩
  | finding page found => cases silent
  | recovering number => cases silent
  | closing number => cases silent
  | creating => cases silent
  | updating owned => cases silent
  | remaining number => cases silent

/-- An answered call leaves a run that has returned as it is, and brings any
other nearer to its end. -/
theorem answered_step (documented : Documented service) {moment : Nat}
    {phase : Phase} (sound : Sound markers system)
    (isRun : system.runs audit = some { request, phase })
    (alone : phase.Alone request system.tracker)
    (granted : Granted service system (.answered audit moment)) :
    ((∃ message, phase = .ended (.ok message)) ∧
        system.step service (.answered audit moment) = system) ∨
      ∃ later, (system.step service (.answered audit moment)).runs audit =
          some { request, phase := later } ∧
        later.Alone request
          (system.step service (.answered audit moment)).tracker ∧
        later.calls (system.step service
          (.answered audit moment)).tracker.issues.length <
            phase.calls system.tracker.issues.length := by
  rw [System.step, System.serve, isRun]
  dsimp only
  cases calls : request.call phase with
  | none =>
      left
      obtain ⟨result, isEnd⟩ := call_eq_none calls
      rw [isEnd] at alone
      cases result with
      | error error => exact absurd alone id
      | ok message => exact ⟨⟨message, isEnd⟩, rfl⟩
  | some call =>
      right
      exact ⟨_, put_runs_self, alone_answered (sound.runs audit _ isRun)
        (sound.unique audit) alone calls
        (documented moment system.tracker call)
        (granted { request, phase } call isRun calls)⟩

/-- A run that is answered as often as it still needs returns. -/
theorem answered_ends (documented : Documented service) {moments : List Nat}
    {phase : Phase} (sound : Sound markers system)
    (isRun : system.runs audit = some { request, phase })
    (alone : phase.Alone request system.tracker)
    (enough : phase.calls system.tracker.issues.length ≤ moments.length)
    (granted : Along service (Granted service)
      (moments.map (Event.answered audit)) system) :
    ∃ message, (system.run service (moments.map (Event.answered audit))).runs
      audit = some { request, phase := .ended (.ok message) } := by
  induction moments generalizing system phase with
  | nil =>
      by_cases returned : ∃ message, phase = .ended (.ok message)
      · obtain ⟨message, isEnd⟩ := returned
        rw [isEnd] at isRun
        exact ⟨message, isRun⟩
      · exfalso
        cases phase with
        | ended result =>
            cases result with
            | error error => exact alone
            | ok message => exact returned ⟨message, rfl⟩
        | finding page found =>
            rw [calls_finding, List.length_nil] at enough
            omega
        | recovering number => cases enough
        | closing number => cases enough
        | creating => cases enough
        | updating owned => cases enough
        | remaining number => cases enough
  | cons moment rest ih =>
      rw [List.map_cons] at granted ⊢
      change ∃ message, ((system.step service (.answered audit moment)).run
        service (rest.map (Event.answered audit))).runs audit = _
      rcases answered_step documented sound isRun alone granted.1 with
        ⟨ended, same⟩ | nearer
      · obtain ⟨message, isEnd⟩ := ended
        have later := granted.2
        rw [same] at later ⊢
        apply ih sound isRun alone ?_ later
        rw [isEnd]
        exact Nat.zero_le _
      · obtain ⟨later, isLater, still, less⟩ := nearer
        rw [List.length_cons] at enough
        exact ih (sound.step documented trivial) isLater still (by omega)
          granted.2

/-- A run that nobody disturbs and of which no call is refused needs a call for
each hundred issues, and three more at most. -/
theorem undisturbed_returns (documented : Documented service)
    {moments : List Nat} (sound : Sound markers system)
    (proper : Proper markers audit request)
    (idle : system.idle audit = true)
    (enough : system.tracker.issues.length / perPage + 3 ≤ moments.length)
    (granted : Along service (Granted service)
      (moments.map (Event.answered audit))
        (system.step service (.start audit request))) :
    ∃ message, ((system.step service (.start audit request)).run service
      (moments.map (Event.answered audit))).runs audit =
        some { request, phase := .ended (.ok message) } := by
  have begins : Sound markers (system.step service (.start audit request)) :=
    sound.step documented proper
  have begun : system.step service (.start audit request) =
      system.put audit system.tracker
        { request, phase := .finding 1 [] } := by
    rw [System.step, if_pos idle]
  rw [begun] at begins granted ⊢
  apply answered_ends documented begins put_runs_self ?_ enough granted
  exact ⟨Nat.le_add_left 1 _, List.nil_sublist _⟩

/-! ### A service that refuses nothing that fits -/

/-- The texts of a request are no longer than the service takes. -/
structure ReconcileRequest.Fits (longest : Nat) (request : ReconcileRequest) :
    Prop where
  body : request.body.length ≤ longest
  comments : ∀ phase number text,
    request.call phase = some (.comment number text) → text.length ≤ longest

omit [DecidableEq ι] in
theorem Marked.known {tracker : Tracker} {number : Nat}
    (marked : tracker.Marked markers audit number) :
    number ∈ tracker.numbers := by
  obtain ⟨content, found, _⟩ := marked
  exact Tracker.mem_numbers.mpr ⟨content, found⟩

omit [DecidableEq ι] in
theorem willing_update {longest moment number : Nat} {tracker : Tracker}
    {payload : IssueUpdate} (known : number ∈ tracker.numbers)
    (fits : (payload.body.getD "").length ≤ longest) :
    willingService longest moment tracker (.updateIssue number payload) =
      (.accepted, tracker.change number payload.apply) := by
  dsimp only [willingService, Tracker.changed]
  rw [if_pos fits, if_pos known]

omit [DecidableEq ι] in
theorem willing_comment {longest moment number : Nat} {tracker : Tracker}
    {body : String} (known : number ∈ tracker.numbers)
    (fits : body.length ≤ longest) :
    willingService longest moment tracker (.comment number body) =
      (.accepted, tracker.change number (Content.addComment body)) := by
  dsimp only [willingService, Tracker.changed]
  rw [if_pos fits, if_pos known]

omit [DecidableEq ι] in
theorem willing_create {longest moment : Nat} {tracker : Tracker}
    {title body : String} {labels : List String}
    (fits : body.length ≤ longest) :
    willingService longest moment tracker (.createIssue title body labels) =
      (.created tracker.next,
        tracker.file 0 (newIssue title body labels)) :=
  if_pos fits

omit [DecidableEq ι] in
theorem willing_grants {longest moment : Nat} {tracker : Tracker} {run : Run}
    {call : Call} (fits : run.request.Fits longest)
    (current : run.phase.Current markers run.request tracker audit)
    (calls : run.request.call run.phase = some call) (error : String) :
    (willingService longest moment tracker call).1 ≠ .refused error := by
  have comments := fits.comments
  cases phase : run.phase with
  | finding page found =>
      rw [phase] at calls
      cases calls
      exact Answer.noConfusion
  | recovering number =>
      rw [phase] at calls current
      have short := comments (.recovering number) number _ rfl
      cases calls
      rw [willing_comment (Marked.known current.2) short]
      exact Answer.noConfusion
  | closing number =>
      rw [phase] at calls current
      cases calls
      rw [willing_update (Marked.known current.2) (Nat.zero_le longest)]
      exact Answer.noConfusion
  | creating =>
      rw [phase] at calls
      cases calls
      rw [willing_create fits.body]
      exact Answer.noConfusion
  | updating owned =>
      rw [phase] at calls current
      cases calls
      have short : ((run.request.updatePayload owned).body.getD "").length ≤
          longest := by
        unfold ReconcileRequest.updatePayload
        split
        · exact fits.body
        · exact fits.body
      rw [willing_update (Marked.known current.2.2) short]
      exact Answer.noConfusion
  | remaining number =>
      rw [phase] at calls current
      have short := comments (.remaining number) number _ rfl
      cases calls
      rw [willing_comment (Marked.known current.2.marked) short]
      exact Answer.noConfusion
  | ended result =>
      rw [phase] at calls
      cases calls

/-- Of a run that nobody disturbs such a service refuses no call. -/
theorem willing_granted {longest : Nat} {moments : List Nat}
    (fits : request.Fits longest)
    (underWay : UnderWay markers audit request system) :
    Along (willingService longest) (Granted (willingService longest))
      (moments.map (Event.answered audit)) system := by
  induction moments generalizing system with
  | nil => trivial
  | cons moment rest ih =>
      refine ⟨?_, ih (underWay.step (willingService_documented longest)
        trivial trivial)⟩
      intro run call isRun calls
      obtain ⟨phase, isPhase, current⟩ := underWay.current
      rw [isRun, Option.some.injEq] at isPhase
      rw [isPhase] at calls
      exact @willing_grants ι markers audit longest moment system.tracker
        { request, phase } call fits current calls

end

end AuditIssue
