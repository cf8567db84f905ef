/-
The workload registry of the repository and its validation against the top
level of the tree.

A registry and a manifest are what the JSON and the TOML parser make of a file;
of the tree only its top level is seen here.  The quoting of values in messages
and the comparison of a fraction with an integer are given from outside.
-/

import OxideWorkloads.Foundation.Json
import OxideWorkloads.Foundation.PythonText
import OxideWorkloads.Provenance.Validate

namespace Registry

open Foundation
open Foundation.Checks

def schemaVersion : Int := 3
def requiredEntryKeys : List String := ["name", "path", "msrv"]

/-! ### Documents -/

abbrev Members := List (String × Json)

/-- The value of a key; the last one counts, if a key is repeated. -/
def get? (members : Members) (key : String) : Option Json :=
  members.reverse.lookup key

/-- The value of a key that is there. -/
def at_ (members : Members) (key : String) : Json :=
  (get? members key).getD .null

/-- The keys are these, as sets. -/
def HasKeys (members : Members) (names : List String) : Prop :=
  ∀ key, key ∈ members.map Prod.fst ↔ key ∈ names

instance (members : Members) (names : List String) :
    Decidable (HasKeys members names) :=
  decidable_of_iff ((∀ key ∈ members.map Prod.fst, key ∈ names) ∧
      ∀ key ∈ names, key ∈ members.map Prod.fst) (by
    constructor
    · exact fun both key => ⟨both.1 key, both.2 key⟩
    · exact fun same =>
        ⟨fun key => (same key).mp, fun key => (same key).mpr⟩)

/-- A text of white space only. -/
def isBlank (text : String) : Bool := Python.strip text.toList = []

/-! ### The tree -/

/-- What a top-level directory holds of a Cargo project: its manifest, if it is
a file, and whether the contract entrypoint is executable, if it is a file. -/
structure Project where
  manifest : Option (Except String Provenance.Document)
  entrypoint : Option Bool

/-- The children of the root; those that are directories have a project. -/
structure Root where
  children : List (String × Option Project)
  distinct : (children.map Prod.fst).Nodup
  plain : ∀ child ∈ children, child.1 ≠ "" ∧ '/' ∉ child.1.toList ∧
    child.1 ≠ "."

/-- The components of a path. -/
def pathParts (path : String) : List String :=
  ((path.toList.splitOn '/').map String.ofList).filter
    (fun part => part ≠ "" ∧ part ≠ ".")

def isAbsolute (path : String) : Bool := path.toList.head? = some '/'

/-- The directory at a path of one component. -/
def Root.directory (root : Root) (path : String) : Option Project :=
  match pathParts path with
  | [name] => (root.children.lookup name).join
  | _ => none

/-- The names of the directories that are not hidden and hold a manifest. -/
def Root.candidates (root : Root) : List String :=
  root.children.filterMap (fun child =>
    match child.2 with
    | some project =>
        if child.1.toList.head? ≠ some '.' ∧ project.manifest.isSome then
          some child.1
        else none
    | none => none)

/-! ### Entries -/

structure Msrv where
  declared : Bool
  version : Option String
  policyReason : Option String
  deriving DecidableEq

structure Entry where
  kind : String
  name : String
  path : String
  msrv : Msrv
  deriving DecidableEq

section Validation

variable (repr : Json → String)

def validateName (value : Json) : Except String String :=
  match value with
  | .string name => do
      ensure (name ≠ "") "every entry name must be a non-empty string"
      ensure (¬('/' ∈ name.toList ∨ name = "." ∨ name = ".."))
        s!"invalid entry name: {repr (.string name)}"
      return name
  | _ => .error "every entry name must be a non-empty string"

def validateTopLevelPath (value : Json) (kind : String) :
    Except String String :=
  match value with
  | .string path => do
      ensure (path ≠ "") s!"every {kind} path must be a non-empty string"
      ensure (¬isAbsolute path ∧ (pathParts path).length = 1 ∧
          pathParts path ≠ [".."])
        s!"{kind} path must be one top-level directory: {repr (.string path)}"
      return path
  | _ => .error s!"every {kind} path must be a non-empty string"

/-- The version of the manifest, the only source of it. -/
def readRustVersion (name : String) (project : Project) :
    Except String (Option String) :=
  match project.manifest with
  | none => .error s!"{repr (.string name)} is missing Cargo.toml"
  | some (.error error) =>
      .error s!"{repr (.string name)} has invalid Cargo.toml: {error}"
  | some (.ok document) =>
      match Provenance.table? document "package" with
      | none => .error
          s!"{repr (.string name)} Cargo.toml is missing a [package] table"
      | some package =>
          match Provenance.get? package "rust-version" with
          | none => .ok none
          | some (.text version) => do
              ensure (isBlank version = false)
                s!"{repr (.string name)} Cargo.toml package.rust-version must be a non-empty string"
              return some version
          | some _ => .error
              s!"{repr (.string name)} Cargo.toml package.rust-version must be a non-empty string"

/-- A declared MSRV takes its version from the manifest. -/
def validateDeclared (name : String) (msrv : Members)
    (rustVersion : Option String) : Except String Msrv := do
  ensure (HasKeys msrv ["declared"])
    s!"{repr (.string name)} declared msrv must contain exactly declared -- the version is always read from Cargo.toml's package.rust-version, never duplicated in the registry"
  let version ← require rustVersion
    s!"{repr (.string name)} declares msrv.declared=true but Cargo.toml has no package.rust-version"
  return { declared := true, version := some version, policyReason := none }

/-- Without an MSRV there is a reason and no version. -/
def validateUndeclared (name : String) (msrv : Members)
    (rustVersion : Option String) : Except String Msrv := do
  ensure (HasKeys msrv ["declared", "policy_reason"])
    s!"{repr (.string name)} undeclared msrv must contain exactly declared and policy_reason"
  let reason ← require (at_ msrv "policy_reason").asString
    s!"{repr (.string name)} msrv.policy_reason must be a non-empty string when msrv is not declared"
  ensure (isBlank reason = false)
    s!"{repr (.string name)} msrv.policy_reason must be a non-empty string when msrv is not declared"
  ensure (rustVersion = none)
    (s!"{repr (.string name)} msrv.declared is false but Cargo.toml declares package.rust-version=" ++
      repr (.string (rustVersion.getD "")) ++
      "; keep the registry and the manifest consistent")
  return { declared := false, version := none, policyReason := some reason }

def validateMsrv (name : String) (msrv : Json) (project : Project) :
    Except String Msrv :=
  match msrv with
  | .object members => do
      let declared ← require (at_ members "declared").asBool
        s!"{repr (.string name)} msrv.declared must be a boolean"
      let rustVersion ← readRustVersion repr name project
      if declared then validateDeclared repr name members rustVersion
      else validateUndeclared repr name members rustVersion
  | _ => .error s!"{repr (.string name)} msrv must be an object"

def validateContractEntrypoint (name path : String) (project : Project) :
    Except String Unit := do
  let relative := "/".intercalate (pathParts path ++ ["ci", "validate"])
  let executable ← require project.entrypoint
    s!"{repr (.string name)} is missing its CI contract entrypoint: {relative}"
  ensure (executable = true)
    s!"{repr (.string name)} CI contract entrypoint is not executable: {relative}"

/-- The names and paths of the entries so far. -/
structure Seen where
  names : List String
  paths : List String

def validateEntry (root : Root) (kind : String) (seen : Seen)
    (entry : Json) : Except String (Entry × Seen) :=
  let message := s!"each {kind} entry must contain exactly msrv, name, path"
  match entry with
  | .object members => do
      ensure (HasKeys members requiredEntryKeys) message
      let name ← validateName repr (at_ members "name")
      let path ← validateTopLevelPath repr (at_ members "path") kind
      ensure (name ∉ seen.names)
        s!"duplicate name across workloads/fixtures: {name}"
      ensure (path ∉ seen.paths)
        s!"duplicate path across workloads/fixtures: {path}"
      let project ← require (root.directory path)
        s!"registered {kind} path does not exist: {path}"
      ensure (project.manifest.isSome = true)
        s!"registered {kind} is missing Cargo.toml: {path}"
      validateContractEntrypoint repr name path project
      let msrv ← validateMsrv repr name (at_ members "msrv") project
      return ({ kind, name, path, msrv },
        { names := seen.names ++ [name], paths := seen.paths ++ [path] })
  | _ => .error message

def validateEntries (root : Root) (kind : String) :
    Seen → List Json → Except String (List Entry × Seen)
  | seen, [] => .ok ([], seen)
  | seen, entry :: rest => do
      let (first, seen) ← validateEntry repr root kind seen entry
      let (others, seen) ← validateEntries root kind seen rest
      return (first :: others, seen)

/-- One turn of the loop over the reserved projects. -/
def validateReserved (root : Root) (seen : Seen) (reservedPaths : List String)
    (entry : Json) : Except String (List String) :=
  let message :=
    "each reserved Cargo project must contain exactly path and reason"
  match entry with
  | .object members => do
      ensure (HasKeys members ["path", "reason"]) message
      let path ← validateTopLevelPath repr (at_ members "path")
        "reserved Cargo project"
      let reason ← require (at_ members "reason").asString
        s!"reserved Cargo project must include a non-empty reason: {path}"
      ensure (isBlank reason = false)
        s!"reserved Cargo project must include a non-empty reason: {path}"
      ensure (path ∉ reservedPaths) s!"duplicate reserved Cargo project: {path}"
      ensure (path ∉ seen.paths)
        s!"path cannot be both a workload/fixture and a reserved Cargo project: {path}"
      ensure ((root.directory path).any (fun project =>
          project.manifest.isSome) = true)
        s!"reserved Cargo project must exist and contain Cargo.toml: {path}"
      return reservedPaths ++ [path]
  | _ => .error message

def sortTexts (texts : List String) : List String :=
  texts.mergeSort (fun left right => decide (left ≤ right))

def sortByPath (entries : List Entry) : List Entry :=
  entries.mergeSort (fun left right => decide (left.path ≤ right.path))

/-- The array of a key, or what stands in for it. -/
def arrayOf (members : Members) (key : String) (default : Option (List Json))
    (message : String) : Except String (List Json) :=
  match get? members key with
  | some (.array items) => .ok items
  | some _ => .error message
  | none => require default message

structure Discovered where
  workloads : List Entry
  fixtures : List Entry
  deriving DecidableEq

variable (floatIs : String → Int → Bool)

def isSchemaVersion : Option Json → Bool
  | some (.integer value) => value = schemaVersion
  | some (.float text) => floatIs text schemaVersion
  | _ => false

def loadRegistry (registry : Option (Except String Json)) :
    Except String Members :=
  match registry with
  | none => .error "missing canonical workload registry: workloads.json"
  | some (.error error) => .error s!"invalid workloads.json: {error}"
  | some (.ok (.object members)) => do
      ensure (isSchemaVersion floatIs (get? members "schema_version") = true)
        s!"workloads.json schema_version must be {schemaVersion}"
      return members
  | some (.ok _) => .error "workloads.json root must be an object"

def validateRepository (root : Root)
    (registry : Option (Except String Json)) : Except String Discovered := do
  let data ← loadRegistry floatIs registry
  let workloadsRaw ← arrayOf data "workloads" none
    "workloads must be a non-empty array"
  ensure (workloadsRaw.length ≠ 0) "workloads must be a non-empty array"
  let fixturesRaw ← arrayOf data "fixtures" (some [])
    "fixtures must be an array"
  let reserved ← arrayOf data "reserved_top_level_cargo_projects" (some [])
    "reserved_top_level_cargo_projects must be an array"
  let (workloads, seen) ← validateEntries repr root "workload"
    { names := [], paths := [] } workloadsRaw
  let (fixtures, seen) ← validateEntries repr root "fixture" seen fixturesRaw
  let reservedPaths ← reserved.foldlM (validateReserved repr root seen) []
  let accounted := seen.paths ++ reservedPaths
  let unregistered := sortTexts (root.candidates.filter (fun name =>
    name ∉ accounted))
  let stale := sortTexts (accounted.filter (fun path =>
    path ∉ root.candidates))
  ensure (unregistered = [])
    ("unregistered top-level Cargo project(s): " ++
      ", ".intercalate unregistered)
  ensure (stale = [])
    ("registry references non-candidate Cargo project(s): " ++
      ", ".intercalate stale)
  return {
    workloads := sortByPath workloads
    fixtures := sortByPath fixtures }

end Validation

end Registry
