/-
What the release preflight checks of the documents of one CodeQL run: where it
comes from, its jobs, its artifacts and the manifests of its sources.

A document is what the JSON parser makes of an answer.  What the language does
with fractions and with the texts of instants is given from outside, as is how
a message shows a value.
-/

import OxideWorkloads.Ci.Closure
import OxideWorkloads.Ci.Registry
import OxideWorkloads.Ci.ShardResults

namespace ReleasePreflight

open Foundation
open Foundation.Checks
open Registry (Members at_ get?)

inductive ErrorKind where
  | valueError
  | calledProcessError
  | osError
  | keyError
  | typeError
  | attributeError
  deriving DecidableEq

structure Failure where
  kind : ErrorKind
  message : String

def rejected (message : String) : Failure :=
  { kind := .valueError, message }

/-- The parts of the language that the checks use. -/
structure Language where
  floatIs : String → Int → Bool
  floatsAgree : String → String → Bool
  floatLess : Json → Json → Bool
  show_ : Json → String
  instant : String → Option (Bool × Int)

def languages : List String := ["actions", "python", "rust", "java-kotlin"]

def workflowPath : String := ".github/workflows/codeql.yml"

/-! ### Values -/

def isText (text : String) : Json → Bool
  | .string other => other = text
  | _ => false

/-- The integers of the language; a truth value is one of them. -/
def asInteger : Json → Option Int
  | .integer value => some value
  | .bool value => some (if value then 1 else 0)
  | _ => none

def isNumber : Json → Bool
  | .integer _ => true
  | .bool _ => true
  | .float _ => true
  | _ => false

def hashable : Json → Bool
  | .array _ => false
  | .object _ => false
  | _ => true

namespace Language

variable (py : Language)

def isInteger (value : Int) : Json → Bool
  | .integer other => other = value
  | .bool other => (if other then 1 else 0) = value
  | .float text => py.floatIs text value
  | _ => false

/-- The order of numbers. -/
def less (left right : Json) : Bool :=
  match asInteger left, asInteger right with
  | some first, some second => first < second
  | _, _ => py.floatLess left right

mutual

/-- Equality of values. -/
def same : Json → Json → Bool
  | .null, .null => true
  | .string text, other => isText text other
  | .integer value, other => py.isInteger value other
  | .bool value, other => py.isInteger (if value then 1 else 0) other
  | .float text, .float other => py.floatsAgree text other
  | .float text, .integer value => py.floatIs text value
  | .float text, .bool value => py.floatIs text (if value then 1 else 0)
  | .array items, .array others => sameItems items others
  | .object members, .object others =>
      others.all (fun other => (get? members other.1).isSome) &&
        sameMembers members others
  | _, _ => false

def sameItems : List Json → List Json → Bool
  | [], [] => true
  | item :: rest, other :: others => same item other && sameItems rest others
  | _, _ => false

/-- The last value of each key is the value of the key in the other object. -/
def sameMembers : Members → Members → Bool
  | [], _ => true
  | (key, value) :: rest, others =>
      ((get? rest key).isSome ||
        match get? others key with
        | some other => same value other
        | none => false) && sameMembers rest others

end

/-- A value that is absent, empty or zero stands for an empty object. -/
def orEmpty (value : Json) : Json :=
  if Aggregate.truthy py.floatIs value then value else .object []

end Language

/-- The value of a key, of what has to be an object. -/
def field (value : Json) (key : String) : Except Failure Json :=
  match value with
  | .object members => .ok (at_ members key)
  | _ => .error { kind := .attributeError
                  message := "object has no attribute 'get'" }

/-- The value of a key of an object below a key; the object may be absent. -/
def below (members : Members) (outer key : String) : Except Failure Json :=
  field ((get? members outer).getD (.object [])) key

def isSha (value : Json) : Option String :=
  match value with
  | .string text => if Closure.isHex40 text then some text else none
  | _ => none

/-! ### One run -/

/-- The run scans exactly this candidate. -/
def exact (run : Members) (sha : String) : Bool :=
  if isText "workflow_dispatch" (at_ run "event") then
    isText ("CodeQL source " ++ sha) (at_ run "display_title")
  else
    isText "schedule" (at_ run "event") && isText sha (at_ run "head_sha")

def completed (run : Members) : Bool :=
  isText "completed" (at_ run "status")

def succeeded (run : Members) : Bool :=
  isText "success" (at_ run "conclusion")

variable (py : Language)

def firstAttempt (run : Members) : Bool :=
  py.isInteger 1 (at_ run "run_attempt")

/-- The run belongs to the workflow on the main branch of the repository. -/
def ofWorkflow (repo : String) (wf run : Members) : Except Failure Bool :=
  if py.same (at_ run "workflow_id") (at_ wf "id") &&
      isText workflowPath (at_ run "path") &&
      isText "main" (at_ run "head_branch") then do
    let name ← field (py.orEmpty (at_ run "head_repository")) "full_name"
    return isText repo name
  else .ok false

/-- Identity, state and source of a run. -/
def checkRun (repo : String) (wf run : Members) : Except Failure Unit := do
  let failure := rejected
    "untrusted or mismatched CodeQL run identity/state/source"
  ensure (py.same (at_ run "workflow_id") (at_ wf "id") = true ∧
    isText workflowPath (at_ run "path") = true ∧
    (isText "workflow_dispatch" (at_ run "event") = true ∨
      isText "schedule" (at_ run "event") = true) ∧
    isText "main" (at_ run "head_branch") = true) failure
  let name ← field (py.orEmpty (at_ run "head_repository")) "full_name"
  ensure (isText repo name = true ∧ completed run = true ∧
    succeeded run = true ∧ firstAttempt py run = true) failure

/-- When the run was created. -/
def createdAt (run : Members) : Except Failure Int :=
  match get? run "created_at" with
  | some (.string text) =>
      match py.instant (text.replace "Z" "+00:00") with
      | some (true, instant) => .ok instant
      | some (false, _) =>
          .error (rejected "scan has invalid or future timestamp")
      | none => .error (rejected "invalid scan creation time")
  | _ => .error (rejected "invalid scan creation time")

def objectsOf (rows : List Json) : List Members :=
  rows.filterMap fun row =>
    match row with
    | .object members => some members
    | _ => none

/-- The names of the rows that are objects. -/
def namesOf (rows : List Json) : List Json :=
  (objectsOf rows).map (fun row => at_ row "name")

/-- What is put into a set has to be hashable. -/
def intoSet (values : List Json) : Except Failure Unit :=
  ensure (∀ value ∈ values, hashable value = true)
    { kind := .typeError, message := "unhashable type" }

def expectedJobs : List String :=
  languages.map (fun language => "codeql (" ++ language ++ ")")

/-- One successful job for each language, and no other. -/
def checkJobs (jobs : Members) : Except Failure Unit := do
  let failure := rejected
    "missing, extra, incomplete or unsuccessful CodeQL language jobs"
  ensure (py.isInteger languages.length (at_ jobs "total_count") = true)
    failure
  let rows ← match at_ jobs "jobs" with
    | .array rows => .ok rows
    | _ => .error failure
  ensure (rows.length = languages.length) failure
  let names := namesOf rows
  intoSet names
  ensure ((∀ job ∈ expectedJobs, ∃ name ∈ names, isText job name = true) ∧
    ∀ name ∈ names, ∃ job ∈ expectedJobs, isText job name = true) failure
  ensure (∀ row ∈ objectsOf rows,
    completed row = true ∧ succeeded row = true) failure

def expectedArtifacts (sha : String) : List String :=
  languages.map (fun language => "codeql-" ++ sha ++ "-" ++ language) ++
    languages.map (fun language => "codeql-source-" ++ sha ++ "-" ++ language)

/-- Whether an artifact of the run has expired. -/
def checkArtifact (run row : Members) : Except Failure Bool := do
  let failure := rejected
    "empty, malformed or wrong-source CodeQL artifact"
  ensure ((asInteger (at_ row "id")).isSome = true) failure
  ensure ((asInteger (at_ row "size_in_bytes")).any (0 < ·) = true) failure
  let source ← field (py.orEmpty (at_ row "workflow_run")) "head_sha"
  ensure (source.isNull = true ∨ py.same source (at_ run "head_sha") = true)
    failure
  match at_ row "expired" with
  | .bool expired => return expired
  | _ => .error (rejected "unknown CodeQL artifact expiry state")

/-- The artifacts are some of the expected ones; whether all of them are there
and none has expired. -/
def checkArtifacts (sha : String) (run artifacts : Members) :
    Except Failure Bool := do
  let failure := rejected "invalid or incomplete CodeQL artifact listing"
  let rows ← match at_ artifacts "artifacts" with
    | .array rows => .ok rows
    | _ => .error failure
  ensure (py.isInteger rows.length (at_ artifacts "total_count") = true ∧
    rows.length ≤ 2 * languages.length) failure
  let unexpected := rejected "unexpected or duplicate CodeQL artifact"
  let names := namesOf rows
  ensure (names.length = rows.length) unexpected
  intoSet names
  ensure ((∀ name ∈ names, ∃ artifact ∈ expectedArtifacts sha,
      isText artifact name = true) ∧
    (names.filterMap Json.asString).Nodup) unexpected
  let expired ← (objectsOf rows).mapM (checkArtifact py run)
  return rows.length = 2 * languages.length && !expired.any id

/-- What a source manifest has to say. -/
def expectedManifest (repo : String) (run : Members)
    (sha candidateTree language : String) : Members :=
  [("schema", .integer 1),
    ("repository", .string repo),
    ("workflow_path", .string workflowPath),
    ("workflow_ref", .string (repo ++ "/" ++ workflowPath ++
      "@refs/heads/main")),
    ("workflow_sha", at_ run "head_sha"),
    ("event_name", at_ run "event"),
    ("event_sha", at_ run "head_sha"),
    ("candidate_sha", .string sha),
    ("checkout_sha", .string sha),
    ("candidate_tree", .string candidateTree),
    ("run_id", at_ run "id"),
    ("run_attempt", .integer 1),
    ("language", .string language)]

/-- The manifests below a directory: one, with the source of the run. -/
def manifest (files : List (Except Failure Json)) (repo : String)
    (run : Members) (sha candidateTree language : String) :
    Except Failure Unit :=
  match files with
  | [file] => do
      match ← file with
      | .object document =>
          ensure (∀ member ∈ expectedManifest repo run sha candidateTree
            language, py.same (at_ document member.1) member.2 = true)
            (rejected "CodeQL source provenance mismatch")
      | _ => .error (rejected "CodeQL source provenance mismatch")
  | _ => .error (rejected "missing or ambiguous source identity manifest")

end ReleasePreflight
