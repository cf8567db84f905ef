/-
The labels of an issue or a pull request, reconciled with what its title and
its files say.

A set is the list of its elements in any order; what reads one sees neither
the order nor a repetition.  Lower-casing follows the language's tables, which
are given from outside, as is the quoting of texts in the errors.
-/

import Mathlib.Data.List.Infix
import Mathlib.Data.List.Sort
import Mathlib.Data.String.Basic
import OxideWorkloads.Foundation.Checks
import OxideWorkloads.Foundation.PythonText

namespace Labels

open Foundation
open Foundation.Checks

def startsWith (text start : String) : Bool :=
  start.toList.isPrefixOf text.toList

def contains (text phrase : String) : Bool :=
  decide (phrase.toList <:+: text.toList)

/-! ### The rules -/

/-- A keyword at the start of a title, then a scope in parentheses where one is
allowed, white space and a colon. -/
structure TitlePattern where
  keywords : List String
  hasScope : Bool

def skipScope : List Char → List Char
  | '(' :: rest =>
      match rest.dropWhile (fun char => char ≠ ')') with
      | [] => '(' :: rest
      | _ :: after => after
  | chars => chars

def TitlePattern.search (pattern : TitlePattern) (value : String) : Bool :=
  pattern.keywords.any fun keyword =>
    startsWith value keyword &&
      (let rest := value.toList.drop keyword.toList.length
        let rest := if pattern.hasScope then skipScope rest else rest
        (rest.dropWhile Python.isSpace).head? = some ':')

def typeRules : List (TitlePattern × String) :=
  [(⟨["epic"], false⟩, "type:epic"),
    (⟨["track"], true⟩, "type:track"),
    (⟨["workload", "campaign"], false⟩, "type:campaign"),
    (⟨["bug", "fix"], false⟩, "type:bug"),
    (⟨["security"], false⟩, "type:security"),
    (⟨["doc", "docs", "documentation"], false⟩, "type:docs"),
    (⟨["research"], false⟩, "type:research"),
    (⟨["hardening"], true⟩, "type:task"),
    (⟨["task", "chore", "governance", "ci", "evidence", "dep", "deps"],
      false⟩, "type:task"),
    (⟨["chore(deps)"], false⟩, "type:task")]

def areaPrefixRules : List (TitlePattern × String) :=
  [(⟨["ci"], false⟩, "area:ci"),
    (⟨["hardening"], true⟩, "area:governance"),
    (⟨["governance", "chore"], false⟩, "area:governance"),
    (⟨["evidence"], false⟩, "area:evidence"),
    (⟨["security"], false⟩, "area:security"),
    (⟨["doc", "docs", "documentation"], false⟩, "area:docs")]

/-- The areas that the automation refers to. -/
def referencedAreas : List String :=
  ["area:benchmark", "area:interop", "area:postgres", "area:workload",
    "area:evidence", "area:ci", "area:governance", "area:docs",
    "area:security"]

structure Policy where
  known : List String
  structural : List String
  typePrefix : String
  workloadPaths : List (String × String)

/-- The label belongs to the group of the types. -/
def Policy.isType (policy : Policy) (label : String) : Bool :=
  startsWith label policy.typePrefix

section Inference

variable (lower : String → String)

def normalTitle (title : String) : String :=
  lower (String.ofList (Python.strip title.toList))

def strongTypeFromTitle (title : String) : Option String :=
  let value := normalTitle lower title
  (typeRules.find? (fun rule => rule.1.search value)).map Prod.snd

/-- The labels of a set, if a condition holds. -/
def labelsIf (condition : Bool) (labels : List String) : List String :=
  if condition then labels else []

def inferTitleAreas (title : String) : List String :=
  let value := normalTitle lower title
  (areaPrefixRules.filter (fun rule => rule.1.search value)).map Prod.snd ++
    labelsIf (contains value "benchmark") ["area:benchmark"] ++
    labelsIf (["interop", "scheduler", "orchestrator", "event-driven",
      "control-plane"].any (contains value)) ["area:interop"] ++
    labelsIf (contains value "postgres" || contains value "postgresql")
      ["area:postgres"]

def workloadAreas (path : String) (workload : String × String) :
    List String :=
  labelsIf
    (path = String.ofList workload.2.toList.dropLast ||
      startsWith path workload.2)
    ("area:workload" ::
      labelsIf (contains (lower workload.1) "postgres" ||
        contains (lower workload.2) "postgres") ["area:postgres"])

def pathAreas (policy : Policy) (rawPath : String) : List String :=
  let path := String.ofList
    (rawPath.toList.dropWhile (fun char => char = '/'))
  (if startsWith path ".github/workflows/" then
      ["area:ci", "area:governance"]
    else labelsIf (startsWith path ".github/scripts/") ["area:ci"]) ++
    labelsIf (path = ".github/labels.json" ||
      startsWith path ".github/ISSUE_TEMPLATE/") ["area:governance"] ++
    labelsIf (path = "CONTRIBUTING.md" || path = "CODE_OF_CONDUCT.md")
      ["area:docs", "area:governance"] ++
    labelsIf (path = "SECURITY.md") ["area:docs", "area:security"] ++
    labelsIf (contains ("/" ++ path) "/validation/" ||
      "/validation".toList.isSuffixOf path.toList) ["area:evidence"] ++
    policy.workloadPaths.flatMap (workloadAreas lower path)

def inferPathAreas (paths : List String) (policy : Policy) : List String :=
  paths.flatMap (pathAreas lower policy)

end Inference

/-! ### Reconciling -/

section Reconciling

variable (repr : String → String)

def reprList (labels : List String) : String :=
  "[" ++ ", ".intercalate (labels.map repr) ++ "]"

/-- A text that counts as true. -/
def truthy (text : Option String) : Option String :=
  text.filter (fun present => present ≠ "")

def selectType (typeLabels structural : List String)
    (inferredType : Option String) : Except String (Option String) :=
  match structural with
  | label :: _ => .ok (some label)
  | [] =>
      match truthy inferredType with
      | some label => .ok (some label)
      | none =>
          if typeLabels.length ≤ 1 then .ok typeLabels.head?
          else .error ("multiple managed type labels without an " ++
            "authoritative signal: " ++ reprList repr typeLabels)

/-- One turn of the loop over the areas. -/
def addArea (policy : Policy) (desired : List String) (area : String) :
    List String :=
  if area ∈ policy.known ∧ area ∉ desired then desired ++ [area]
  else desired

def addAreas (policy : Policy) (desired inferredAreas : List String) :
    List String :=
  (inferredAreas.insertionSort (fun left right => left ≤ right)).foldl
    (addArea policy) desired

def reconcileLabels (currentLabels : List String)
    (inferredType : Option String) (inferredAreas : List String)
    (policy : Policy) : Except String (List String) := do
  let current := currentLabels.eraseDups
  let typeLabels := current.filter policy.isType
  let structural := typeLabels.filter
    (fun label => label ∈ policy.structural)
  ensure (structural.length ≤ 1)
    ("multiple structural type labels require manual resolution: " ++
      reprList repr structural)
  let selectedType ← selectType repr typeLabels structural inferredType
  let nonType := current.filter (fun label => !policy.isType label)
  return (addAreas policy ((truthy selectedType).toList ++ nonType)
    inferredAreas).eraseDups

end Reconciling

/-! ### Items -/

structure Item where
  number : Nat
  title : String
  labels : List String
  pullRequest : Bool

/-- What the service answers about the files of a pull request. -/
abbrev Client := Nat → Except String (List String)

section Items

variable (lower repr : String → String)

def inferAreas (item : Item) (policy : Policy) (client : Option Client) :
    Except String (List String) :=
  if item.pullRequest then do
    let request ← require client "PR classification requires a GitHub client"
    let paths ← request item.number
    return inferTitleAreas lower item.title ++
      inferPathAreas lower paths policy
  else .ok (inferTitleAreas lower item.title)

def classifyItem (item : Item) (policy : Policy) (client : Option Client) :
    Except String (List String) := do
  let inferredAreas ← inferAreas lower item policy client
  reconcileLabels repr item.labels (strongTypeFromTitle lower item.title)
    inferredAreas policy

/-- The lists have one length and the same elements. -/
def alreadyReconciled (desired current : List String) : Bool :=
  desired.length = current.length &&
    (desired.all (fun label => label ∈ current) &&
      current.all (fun label => label ∈ desired))

/-- Whether the labels change, and the labels that the item has then. -/
def applyItem (client : Client) (item : Item) (policy : Policy)
    (dryRun : Bool) : Except String (Bool × List String) := do
  let desired ← classifyItem lower repr item policy (some client)
  return if alreadyReconciled desired item.labels then (false, item.labels)
    else if dryRun then (true, item.labels)
    else (true, desired)

end Items

end Labels
