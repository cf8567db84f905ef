/-
The life of an issue that an audit owns: the call an audit makes next, what it
does with the answer, and several audits at work on one tracker.

An audit finds its issue by a marker in the body.  Calls of different audits
and changes by others come in any order; a call may be refused, or fail before or
after it took effect.  One audit does not run twice at a time.
-/

import OxideWorkloads.Ci.IssueTracker

namespace AuditIssue

/-! ### One run -/

/-- The body of an issue contains a marker. -/
def Content.Bears (marker : String) (content : Content) : Prop :=
  content.isPullRequest = false ∧
    marker.toList <:+: (content.body.getD "").toList

instance (marker : String) (content : Content) :
    Decidable (content.Bears marker) :=
  inferInstanceAs (Decidable (_ ∧ _))

structure ReconcileRequest where
  marker : String
  ownerName : String
  title : String
  labels : List String
  classification : String
  cleanClassification : String
  body : String
  runUrl : String

/-- Where a run is: reading a page of the issues, before one of its calls, or
at its end. -/
inductive Phase where
  | finding (page : Nat) (found : List Issue)
  | recovering (number : Nat)
  | closing (number : Nat)
  | creating
  | updating (owned : Issue)
  | remaining (number : Nat)
  | ended (result : Except String String)

def pythonNumbers (numbers : List Nat) : String :=
  "[" ++ ", ".intercalate (numbers.map toString) ++ "]"

namespace ReconcileRequest

variable (request : ReconcileRequest)

def isClean : Bool :=
  request.classification = request.cleanClassification

/-- The branch that the owned issue decides. -/
def settle (owned : Option Issue) : Phase :=
  if request.isClean then
    match owned with
    | none => .ended (.ok "clean; no open owned issue")
    | some issue =>
        if issue.content.state = .opened then .recovering issue.number
        else .ended (.ok "clean; no open owned issue")
  else
    match owned with
    | none => .creating
    | some issue => .updating issue

def findOwnedIssue : List Issue → Phase
  | [] => request.settle none
  | [issue] => request.settle (some issue)
  | found =>
      .ended (.error ("multiple owned " ++ request.ownerName ++
        " issues found: " ++ pythonNumbers (found.map Issue.number)))

/-- The issues of a page that bear the marker. -/
def matching (items : List Issue) : List Issue :=
  items.filter (fun issue => issue.content.Bears request.marker)

def updatePayload (owned : Issue) : IssueUpdate :=
  if owned.content.state = .opened then
    { title := some request.title
      body := some request.body
      labels := some request.labels
      state := none
      stateReason := none }
  else
    { title := some request.title
      body := some request.body
      labels := some request.labels
      state := some .opened
      stateReason := some "reopened" }

def closePayload : IssueUpdate :=
  { title := none
    body := none
    labels := none
    state := some .closed
    stateReason := some "completed" }

/-- The call that a run makes next. -/
def call : Phase → Option Call
  | .finding page _ => some (.allIssues page)
  | .recovering number =>
      some (.comment number
        ("Audit recovered to clean. Run: " ++ request.runUrl))
  | .closing number => some (.updateIssue number closePayload)
  | .creating =>
      some (.createIssue request.title request.body request.labels)
  | .updating owned =>
      some (.updateIssue owned.number (request.updatePayload owned))
  | .remaining number =>
      some (.comment number ("Audit remains non-clean with classification `" ++
        request.classification ++ "`. Run: " ++ request.runUrl))
  | .ended _ => none

/-- What the answer to a call leads to. -/
def next : Phase → Answer → Phase
  | _, .refused error => .ended (.error error)
  | .finding page found, .items items =>
      if items = [] then request.findOwnedIssue found
      else
        let found := found ++ request.matching items
        if items.length < perPage then request.findOwnedIssue found
        else .finding (page + 1) found
  | .recovering number, .accepted => .closing number
  | .closing number, .accepted =>
      .ended (.ok s!"closed recovered issue #{number}")
  | .creating, .created number => .ended (.ok s!"created issue #{number}")
  | .updating owned, .accepted => .remaining owned.number
  | .remaining number, .accepted => .ended (.ok s!"updated issue #{number}")
  | _, _ => .ended (.error "malformed answer")

end ReconcileRequest

/-! ### Several audits -/

structure Run where
  request : ReconcileRequest
  phase : Phase

structure System (ι : Type) where
  tracker : Tracker
  runs : ι → Option Run

/-- What happens: somebody files or edits an issue; an audit starts, makes a
call and gets the answer of that moment, makes a call and never sees the answer,
or dies before its call. -/
inductive Event (ι : Type) where
  | file (gap : Nat) (content : Content)
  | edit (number : Nat) (change : Content → Content)
  | start (audit : ι) (request : ReconcileRequest)
  | answered (audit : ι) (moment : Nat)
  | unanswered (audit : ι) (moment : Nat)
  | lost (audit : ι)

def Phase.isEnded : Phase → Bool
  | .ended _ => true
  | _ => false

/-- No run of the audit is under way. -/
def System.idle {ι : Type} (system : System ι) (audit : ι) : Bool :=
  match system.runs audit with
  | none => true
  | some run => run.phase.isEnded

section

variable {ι : Type} [DecidableEq ι] (service : Service)

/-- The system with another run of an audit. -/
def System.put (system : System ι) (audit : ι) (tracker : Tracker)
    (run : Run) : System ι :=
  { tracker
    runs := Function.update system.runs audit (some run) }

@[simp] theorem put_tracker {system : System ι} {audit : ι}
    {tracker : Tracker} {run : Run} :
    (system.put audit tracker run).tracker = tracker :=
  rfl

@[simp] theorem put_runs_self {system : System ι} {audit : ι}
    {tracker : Tracker} {run : Run} :
    (system.put audit tracker run).runs audit = some run :=
  Function.update_self audit _ system.runs

theorem put_runs_of_ne {system : System ι} {audit other : ι}
    {tracker : Tracker} {run : Run} (different : other ≠ audit) :
    (system.put audit tracker run).runs other = system.runs other :=
  Function.update_of_ne different _ _

/-- The system after the call of a run was served, with the phase that the
answer leads to. -/
def System.serve (system : System ι) (audit : ι) (moment : Nat)
    (goOn : Run → Answer → Phase) : System ι :=
  match system.runs audit with
  | none => system
  | some run =>
      match run.request.call run.phase with
      | none => system
      | some call =>
          let (answer, tracker) := service moment system.tracker call
          system.put audit tracker { run with phase := goOn run answer }

def System.step (system : System ι) : Event ι → System ι
  | .file gap content =>
      { system with tracker := system.tracker.file gap content }
  | .edit number change =>
      { system with tracker := system.tracker.change number change }
  | .start audit request =>
      if system.idle audit then
        system.put audit system.tracker
          { request, phase := .finding 1 [] }
      else system
  | .answered audit moment =>
      system.serve service audit moment
        (fun run answer => run.request.next run.phase answer)
  | .unanswered audit moment =>
      system.serve service audit moment
        (fun _ _ => .ended (.error "no answer"))
  | .lost audit =>
      match system.runs audit with
      | none => system
      | some run =>
          system.put audit system.tracker
            { run with phase := .ended (.error "lost") }

def System.run (events : List (Event ι)) (system : System ι) : System ι :=
  events.foldl (System.step service) system

end

end AuditIssue
