/-
The release preflight of a candidate: it reuses the finished CodeQL runs of
exactly this candidate, joins the one that is active, or starts one, and waits
for it.

The forge is anything that answers calls: what it does may depend on all calls
before, and a call may fail or may never return, since the job is killed.
Printing is left out.
-/

import OxideWorkloads.Ci.ReleaseEvidence
import OxideWorkloads.Foundation.Keeping

namespace ReleasePreflight

open Foundation
open Foundation.Checks
open Registry (Members at_ get?)

/-! ### Calls -/

inductive Path where
  | mainRef
  | compare (sha main : String)
  | workflow
  | runs (event : String) (page : Nat)
  | run (id : Json)
  | jobs (id : Json)
  | artifacts (id : Json)
  | commit (sha : String)

/-- The path below the repository. -/
def Path.name (py : Language) : Path → String
  | .mainRef => "git/ref/heads/main"
  | .compare sha main => "compare/" ++ sha ++ "..." ++ main
  | .workflow => "actions/workflows/codeql.yml"
  | .runs event page => "actions/workflows/codeql.yml/runs?event=" ++ event ++
      "&branch=main&per_page=100&page=" ++ Nat.repr page
  | .run id => "actions/runs/" ++ py.show_ id
  | .jobs id => "actions/runs/" ++ py.show_ id ++ "/jobs?per_page=100"
  | .artifacts id =>
      "actions/runs/" ++ py.show_ id ++ "/artifacts?per_page=100"
  | .commit sha => "git/commits/" ++ sha

inductive Call where
  | api (path : Path)
  | dispatch (sha : String)
  | download (run : Json) (artifact : String)
  | verdict (run : Json) (language sha : String)
  | utcNow
  | monotonic
  | sleep (seconds : Nat)

/-- What a call returns: a document, the source manifests of a downloaded
artifact, an instant in microseconds, or a clock in nanoseconds. -/
def Call.Answer : Call → Type
  | .api _ => Json
  | .download _ _ => List (Except Failure Json)
  | .utcNow => Int
  | .monotonic => Int
  | .dispatch _ => Unit
  | .verdict _ _ _ => Unit
  | .sleep _ => Unit

structure Exchange where
  call : Call
  outcome : Outcome Failure call.Answer

abbrev History : Type := List Exchange

abbrev Talk (α : Type) : Type := CrashRun History Failure α

/-- What comes of a call after the exchanges before it. -/
abbrev Forge : Type := (call : Call) → History → Outcome Failure call.Answer

section

variable (forge : Forge) (py : Language)

def ask (call : Call) : Talk call.Answer := fun history =>
  (forge call history, history ++ [{ call, outcome := forge call history }])

def check {α : Type} (result : Except Failure α) : Talk α :=
  CrashRun.ofExcept result

/-- Turn some kinds of errors into one with a text in front. -/
def wrapping {α : Type} (kinds : List ErrorKind) (before : String)
    (program : Talk α) : Talk α := do
  match ← CrashRun.attempt program with
  | .ok value => pure value
  | .error failure =>
      CrashRun.fail (if failure.kind ∈ kinds then
        rejected (before ++ failure.message) else failure)

/-- An answer has to be an object. -/
def objectAt (name : String) : Json → Except Failure Members
  | .object members => .ok members
  | _ => .error (rejected ("GitHub API returned non-object for " ++ name))

def api (path : Path) : Talk Members := do
  let value ← ask forge (.api path)
  check (objectAt (path.name py) value)

/-! ### The candidate -/

def isRepoPart (part : List Char) : Bool :=
  part ≠ [] && part.all (fun char => char.isAlphanum || char = '_' ||
    char = '.' || char = '-')

def isRepo (repo : String) : Bool :=
  match repo.toList.splitOn '/' with
  | [owner, name] => isRepoPart owner && isRepoPart name
  | _ => false

/-- The candidate is an ancestor of what it was compared with. -/
def reachable (compare : Members) (sha : String) : Except Failure Unit := do
  let failure :=
    rejected "candidate is not proven reachable from protected main"
  ensure (isText "ahead" (at_ compare "status") = true ∨
    isText "identical" (at_ compare "status") = true) failure
  let base ← below compare "base_commit" "sha"
  ensure (isText sha base = true) failure
  let mergeBase ← below compare "merge_base_commit" "sha"
  ensure (isText sha mergeBase = true) failure

def ancestry (repo sha : String) : Talk String := do
  check (ensure (isRepo repo = true ∧ Closure.isHex40 sha = true)
    (rejected "invalid repository or candidate SHA"))
  let ref ← api forge py .mainRef
  let found ← check (below ref "object" "sha")
  let main ← check (require (isSha found)
    (rejected "protected main identity is missing or malformed"))
  let compare ← api forge py (.compare sha main)
  check (reachable compare sha)
  return main

def workflow : Talk Members := do
  let value ← api forge py .workflow
  check (ensure ((asInteger (at_ value "id")).isSome = true ∧
    isText workflowPath (at_ value "path") = true ∧
    isText "active" (at_ value "state") = true)
    (rejected "CodeQL workflow identity missing or inactive"))
  return value

def tree (sha : String) : Talk String := do
  let value ← api forge py (.commit sha)
  let found ← check (below value "tree" "sha")
  let failure := rejected "candidate tree identity is missing or malformed"
  check (ensure (isText sha (at_ value "sha") = true) failure)
  check (require (isSha found) failure)

/-! ### The runs of the workflow -/

/-- The rows of a page, all of them objects. -/
def pageRows (payload : Members) : Except Failure (List Members) :=
  match at_ payload "workflow_runs" with
  | .array rows => do
      ensure (rows.length ≤ 100)
        (rejected "CodeQL discovery returned invalid run array")
      ensure ((objectsOf rows).length = rows.length)
        (rejected "CodeQL discovery returned malformed run")
      return objectsOf rows
  | _ => .error (rejected "CodeQL discovery returned invalid run array")

/-- The rows that a program keeps. -/
def keepRows (keep : Members → Except Failure Bool) :
    List Members → Except Failure (List Members)
  | [] => .ok []
  | row :: rest => do
      let kept ← keep row
      let others ← keepRows keep rest
      return if kept then row :: others else others

/-- The runs for an event, from a page on. -/
def pagesFrom (repo : String) (wf : Members) (event : String) :
    Nat → Nat → Talk (List Members)
  | 0, _ => CrashRun.fail (rejected ("CodeQL discovery exhausted " ++
      "1000-run bound; cannot prove unique candidate"))
  | left + 1, page => do
      let payload ← api forge py (.runs event page)
      let rows ← check (pageRows payload)
      let kept ← check (keepRows (ofWorkflow py repo wf) rows)
      if rows.length < 100 then return kept
      else do
        let others ← pagesFrom repo wf event left (page + 1)
        return kept ++ others

/-- The runs by their creation, the latest first: texts or numbers. -/
def sortByCreation (rows : List Members) : Except Failure (List Members) :=
  let created := fun row => (get? row "created_at").getD (.string "")
  if rows.all (fun row => (created row).asString.isSome) ∨ rows.length ≤ 1 then
    .ok (rows.mergeSort (fun left right => decide
      ((created right).asString.getD "" ≤ (created left).asString.getD "")))
  else if rows.all (fun row => isNumber (created row)) then
    .ok (rows.mergeSort (fun left right =>
      !py.less (created left) (created right)))
  else .error { kind := .typeError
                message := "'<' not supported between instances" }

def candidates (repo : String) (wf : Members) : Talk (List Members) := do
  let dispatched ← pagesFrom forge py repo wf "workflow_dispatch" 10 1
  let scheduled ← pagesFrom forge py repo wf "schedule" 10 1
  check (sortByCreation py (dispatched ++ scheduled))

/-! ### Evidence -/

def metadata (repo sha : String) (wf run jobs artifacts : Members)
    (allowMissing : Bool) : Talk Bool := do
  check (checkRun py repo wf run)
  let created ← check (createdAt py run)
  let now : Int ← ask forge .utcNow
  check (ensure (created ≤ now)
    (rejected "scan has invalid or future timestamp"))
  check (checkJobs py jobs)
  let complete ← check (checkArtifacts py sha run artifacts)
  if complete then return true
  else if allowMissing then return false
  else CrashRun.fail (rejected "missing or expired original CodeQL evidence")

/-- Whether all of the evidence of a finished run is there. -/
def evidenceAvailable (repo sha : String) (wf : Members) (id : Json) :
    Talk Bool := do
  let run ← api forge py (.run id)
  check (ensure (exact run sha = true)
    (rejected "existing candidate scan source identity changed"))
  let jobs ← api forge py (.jobs id)
  let artifacts ← api forge py (.artifacts id)
  metadata forge py repo sha wf run jobs artifacts true

def inspectLanguage (repo sha : String) (id : Json) (run : Members)
    (candidateTree language : String) : Talk Unit := do
  let _ ← ask forge (.download id ("codeql-" ++ sha ++ "-" ++ language))
  let _ ← ask forge (.verdict id language sha)
  let files ← ask forge
    (.download id ("codeql-source-" ++ sha ++ "-" ++ language))
  check (manifest py files repo run sha candidateTree language)

def inspect (repo sha : String) (wf : Members) (id : Json) : Talk Unit := do
  let run ← api forge py (.run id)
  let jobs ← api forge py (.jobs id)
  let artifacts ← api forge py (.artifacts id)
  let _ ← metadata forge py repo sha wf run jobs artifacts false
  let candidateTree ← tree forge py sha
  CrashRun.forEach (inspectLanguage forge py repo sha id run candidateTree)
    languages
  let _ ← ancestry forge py repo sha
  return ()

/-! ### The preflight -/

def idOf (row : Members) : Except Failure Json :=
  require (get? row "id") { kind := .keyError, message := "'id'" }

/-- The identifier was not there before. -/
def isNew (before : List Int) (row : Members) : Except Failure Bool :=
  let id := at_ row "id"
  if hashable id then .ok (!before.any (fun old => py.isInteger old id))
  else .error { kind := .typeError, message := "unhashable type" }

/-- The runs that a dispatch may have started. -/
def isStarted (before : List Int) (sha : String) (row : Members) :
    Except Failure Bool := do
  let fresh ← isNew py before row
  return fresh && isText "workflow_dispatch" (at_ row "event") &&
    exact row sha && firstAttempt py row

/-- Another run than the selected one has come. -/
def anyStranger (before : List Int) (selected : Json) :
    List Members → Except Failure Bool
  | [] => .ok false
  | row :: rest => do
      let fresh ← isNew py before row
      if fresh && !py.same (at_ row "id") selected then return true
      else anyStranger before selected rest

/-- The one run that a dispatch started, if it is there. -/
def selectStarted (before : List Int) (sha : String) (rows : List Members) :
    Except Failure Json := do
  let newly ← keepRows (isStarted py before sha) rows
  ensure (newly.length ≤ 1) (rejected "ambiguous auto-dispatched CodeQL runs")
  match newly with
  | [] => return .null
  | row :: _ => idOf row

/-- The exact runs are no reason to stop. -/
def checkObserved (before : List Int) (selected : Json)
    (observed : List Members) : Except Failure Unit := do
  ensure ((observed.filter (fun row => !completed row)).length ≤ 1)
    (rejected "ambiguous concurrent exact candidate CodeQL scans")
  ensure (∀ row ∈ observed, completed row = true → succeeded row = true)
    (rejected "failed exact candidate scan encountered during refresh")
  if selected.isNull then return ()
  else do
    let stranger ← anyStranger py before selected observed
    ensure (stranger = false)
      (rejected "ambiguous concurrent extra CodeQL scanner after dispatch")

/-- One poll: the run that is selected by now, and whether it is proven. -/
def poll (repo sha : String) (wf : Members) (before : List Int)
    (selected : Json) : Talk (Json × Bool) := do
  let _ ← ancestry forge py repo sha
  let rows ← candidates forge py repo wf
  let observed := rows.filter (fun row => exact row sha)
  check (checkObserved py before selected observed)
  let selected ← check (if selected.isNull then
    selectStarted py before sha observed else .ok selected)
  if selected.isNull then return (selected, false)
  else do
    let state ← wrapping [.valueError, .calledProcessError, .osError]
      ("failed polling selected CodeQL run " ++ py.show_ selected ++ ": ")
      (api forge py (.run selected))
    check (ensure (exact state sha = true)
      (rejected ("selected CodeQL run " ++ py.show_ selected ++
        " changed candidate identity")))
    check (ensure (firstAttempt py state = true)
      (rejected ("ambiguous rerun attempt for exact candidate " ++
        py.show_ selected)))
    if completed state then do
      check (ensure (succeeded state = true)
        (rejected ("CodeQL run " ++ py.show_ selected ++ " ended " ++
          py.show_ (at_ state "conclusion"))))
      inspect forge py repo sha wf selected
      return (selected, true)
    else return (selected, false)

/-- Poll until the run is proven or the time is over.  Fuel that runs out ends
the model of a run as a kill does. -/
def wait (repo sha : String) (wf : Members) (before : List Int)
    (deadline : Int) (pollSeconds : Nat) : Nat → Json → Talk Unit
  | 0, _ => CrashRun.kill
  | fuel + 1, selected => do
      let now : Int ← ask forge .monotonic
      if now < deadline then do
        let (selected, proven) ← poll forge py repo sha wf before selected
        if proven then return ()
        else do
          let _ ← ask forge (.sleep pollSeconds)
          wait repo sha wf before deadline pollSeconds fuel selected
      else CrashRun.fail (rejected
        (if Aggregate.truthy py.floatIs selected then
          "timed out waiting for exact-source CodeQL run " ++ py.show_ selected
        else "timed out discovering auto-dispatched CodeQL run"))

/-- Inspect every finished run whose evidence is there, and count them. -/
def reuse (repo sha : String) (wf : Members) :
    List Members → Nat → Talk Nat
  | [], count => pure count
  | existing :: rest, count => do
      let id ← check (idOf existing)
      let available ← wrapping
        [.valueError, .calledProcessError, .osError, .keyError, .typeError]
        ("invalid completed exact candidate scan " ++ py.show_ id ++ ": ") (do
          if ← evidenceAvailable forge py repo sha wf id then do
            inspect forge py repo sha wf id
            return true
          else return false)
      reuse repo sha wf rest (if available then count + 1 else count)

/-- What the first listing comes to. -/
inductive Plan where
  | proven
  | join (id : Json)
  | start

/-- The exact runs of the first listing are no reason to stop. -/
def checkListed (exactRuns : List Members) : Except Failure Unit := do
  let active := exactRuns.filter (fun run => !completed run)
  let finished := exactRuns.filter completed
  ensure (∀ run ∈ exactRuns, firstAttempt py run = true)
    (rejected "ambiguous rerun attempt for exact candidate")
  ensure (active.length ≤ 1)
    (rejected "ambiguous active exact-source CodeQL scans")
  ensure (∀ run ∈ finished, succeeded run = true)
    (rejected "failed existing exact-source CodeQL scan cannot be replaced")
  ensure (active.length = 0 ∨ finished.length = 0)
    (rejected "ambiguous active and completed exact candidate scans")

/-- Join the active run, or reuse the finished ones. -/
def planFor (repo sha : String) (wf : Members) (exactRuns : List Members) :
    Talk Plan := do
  match exactRuns.filter (fun run => !completed run) with
  | run :: _ => do
      let id ← check (idOf run)
      return .join id
  | [] => do
      let count ← reuse forge py repo sha wf (exactRuns.filter completed) 0
      return if count = 0 then .start else .proven

/-- The preflight up to its first effect. -/
def prepare (token : Bool) (repo sha : String) :
    Talk (Members × List Int × Plan) := do
  check (ensure (token = true) (rejected "missing GitHub API credential"))
  let _ ← ancestry forge py repo sha
  let wf ← workflow forge py
  let allRuns ← candidates forge py repo wf
  let exactRuns := allRuns.filter (fun run => exact run sha)
  check (checkListed py exactRuns)
  let plan ← planFor forge py repo sha wf exactRuns
  return (wf, allRuns.filterMap (fun run => asInteger (at_ run "id")), plan)

/-- Start a run, and look for it. -/
def start (repo sha : String) (wf : Members) (before : List Int) :
    Talk Json := do
  let _ ← ask forge (.dispatch sha)
  let rows ← candidates forge py repo wf
  check (selectStarted py before sha rows)

def await (repo sha : String) (wf : Members) (before : List Int)
    (timeoutSeconds pollSeconds fuel : Nat) (selected : Json) :
    Talk Unit := do
  let now : Int ← ask forge .monotonic
  wait forge py repo sha wf before (now + timeoutSeconds * 1000000000)
    pollSeconds fuel selected

def verifyLive (token : Bool) (repo sha : String)
    (timeoutSeconds pollSeconds fuel : Nat) : Talk Unit := do
  let (wf, before, plan) ← prepare forge py token repo sha
  match plan with
  | .proven => return ()
  | .join id =>
      await forge py repo sha wf before timeoutSeconds pollSeconds fuel id
  | .start => do
      let selected ← start forge py repo sha wf before
      await forge py repo sha wf before timeoutSeconds pollSeconds fuel selected

end

end ReleasePreflight
