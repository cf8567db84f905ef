/-
The provenance check of a workload: which first-party dependencies its
manifest declares, and where its lockfile takes them from.

A document is what the TOML parser makes of a file; reading the files is left
out.  The dependency tables are a set, so the order of their visits is given
from outside, as is the rendering of values in messages.
-/

import OxideWorkloads.Foundation.Checks
import OxideWorkloads.Foundation.TextFunctions
import Mathlib.Data.List.Sort

namespace Provenance

open Foundation
open Foundation.Checks

/-! ### Documents -/

/-- A value of a TOML document; of numbers, booleans and dates nothing is
read. -/
inductive Value where
  | text (value : String)
  | scalar (rendered : String)
  | array (items : List Value)
  | table (entries : List (String × Value))

abbrev Document := List (String × Value)

/-- The value of a key, as `dict.get`. -/
def get? (document : Document) (key : String) : Option Value :=
  document.lookup key

/-- The value of a key, if it is a table. -/
def table? (document : Document) (key : String) : Option Document :=
  match get? document key with
  | some (.table entries) => some entries
  | _ => none

/-- The value of a key, if it is a text. -/
def text? (document : Document) (key : String) : Option String :=
  match get? document key with
  | some (.text value) => some value
  | _ => none

/-! ### Names, versions and checksums -/

def cratesIoSources : List String :=
  ["registry+https://github.com/rust-lang/crates.io-index",
    "sparse+https://index.crates.io/"]

def dependencyTables : List String :=
  ["dependencies", "dev-dependencies", "build-dependencies"]

def isFirstParty (package : String) : Bool :=
  package == "oxide-batch" ||
    "oxide-batch-".toList.isPrefixOf package.toList

/-- What follows one or more digits. -/
def afterDigits (chars : List Char) : Option (List Char) :=
  match chars with
  | first :: rest =>
      if first.isDigit then some (rest.dropWhile Char.isDigit) else none
  | [] => none

def isLabel (char : Char) : Bool :=
  char.isAlphanum || char == '.' || char == '-'

/-- The end of a version, or a label behind it. -/
def isVersionEnd (chars : List Char) : Bool :=
  match chars with
  | [] => true
  | sign :: label =>
      (sign == '-' || sign == '+') && !label.isEmpty && label.all isLabel

def afterPoint (chars : List Char) : Option (List Char) :=
  match chars with
  | '.' :: rest => some rest
  | _ => none

/-- `=x.y.z`, perhaps with a label. -/
def isExactVersion (version : String) : Bool :=
  match version.toList with
  | '=' :: rest =>
      ((((afterDigits rest).bind afterPoint).bind afterDigits).bind
        afterPoint).bind afterDigits |>.any isVersionEnd
  | _ => false

def isLowerHex (char : Char) : Bool :=
  char.isDigit || (decide ('a' ≤ char) && decide (char ≤ 'f'))

def isChecksum (text : String) : Bool :=
  text.toList.length == 64 && text.toList.all isLowerHex

section

variable (repr : Value → String)

/-! ### The manifest -/

/-- The tables of a document or target that hold dependencies. -/
def tablesOf (order : List String) (name : String → String)
    (document : Document) : List (String × Document) :=
  order.filterMap (fun tableName =>
    (table? document tableName).map (fun table => (name tableName, table)))

def iterDependencyTables (order : List String) (document : Document) :
    List (String × Document) :=
  tablesOf order id document ++
    ((table? document "target").getD []).flatMap (fun target =>
      match target.2 with
      | .table config => tablesOf order
          (fun tableName => s!"target.{target.1}.{tableName}") config
      | _ => [])

/-- The package that a detailed specification names; the alias stands in. -/
def packageOf (given : String) (entries : Document) : Except String String :=
  match (get? entries "package").getD (.text given) with
  | .text package =>
      if package = "" then
        .error s!"dependency {repr (.text given)} has invalid package name"
      else .ok package
  | _ => .error s!"dependency {repr (.text given)} has invalid package name"

def versionOf (given : String) (entries : Document) :
    Except String (Option String) :=
  match get? entries "version" with
  | none => .ok none
  | some (.text version) => .ok (some version)
  | some _ => .error s!"dependency {repr (.text given)} has invalid version"

/-- The package of a dependency, its version and its detailed specification,
if there is one. -/
def dependencyPackage (given : String) (spec : Value) :
    Except String (String × Option String × Option Document) :=
  match spec with
  | .text version => .ok (given, some version, none)
  | .table entries => do
      let package ← packageOf repr given entries
      let version ← versionOf repr given entries
      return (package, version, some entries)
  | _ => .error
      s!"unsupported dependency specification for {repr (.text given)}"

/-- The package that an entry of a patch section overrides. -/
def patchedPackage (given : String) (spec : Value) : String :=
  match spec with
  | .table entries => (text? entries "package").getD given
  | _ => given

def checkPatch (document : Document) : Except String Unit :=
  ((table? document "patch").getD []).forM (fun registry =>
    match registry.2 with
    | .table entries => entries.forM (fun entry =>
        ensure (isFirstParty (patchedPackage entry.1 entry.2) = false)
          s!"first-party dependency {patchedPackage entry.1 entry.2} must not be overridden by [patch.{registry.1}]")
    | _ => .ok ())

/-- The package of a key of the replace section. -/
def replacedPackage (key : String) : String :=
  String.ofList (key.toList.takeWhile (fun char => char != ':'))

def checkReplace (document : Document) : Except String Unit :=
  ((table? document "replace").getD []).forM (fun entry =>
    ensure (isFirstParty (replacedPackage entry.1) = false)
      s!"first-party dependency {replacedPackage entry.1} must not be overridden by [replace]")

/-- The provenance fields of a detailed specification, sorted. -/
def forbiddenFields (detailed : Option Document) : List String :=
  match detailed with
  | none => []
  | some entries => ["git", "path", "registry", "workspace"].filter
      (fun key => (get? entries key).isSome)

/-- A dictionary with a new value for a key. -/
def update (subjects : List (String × String)) (package version : String) :
    List (String × String) :=
  if subjects.any (fun entry => entry.1 == package) then
    subjects.map (fun entry =>
      if entry.1 = package then (package, version) else entry)
  else subjects ++ [(package, version)]

/-- One dependency of a table, with the subjects so far. -/
def validateDependency (tableName : String)
    (subjects : List (String × String)) (entry : String × Value) :
    Except String (List (String × String)) := do
  let (package, version, detailed) ← dependencyPackage repr entry.1 entry.2
  if isFirstParty package = false then return subjects
  let given := repr (.text entry.1)
  let forbidden := String.intercalate ", " (forbiddenFields detailed)
  ensure (forbiddenFields detailed = [])
    s!"first-party dependency {given} ({package}) in [{tableName}] uses forbidden provenance field(s): {forbidden}"
  let version ← require version
    s!"first-party dependency {given} ({package}) must declare an explicit exact version"
  ensure (isExactVersion version = true)
    s!"first-party dependency {given} ({package}) in [{tableName}] must use an exact =x.y.z version, found {repr (.text version)}"
  let resolvedVersion := String.ofList (version.toList.drop 1)
  ensure (∀ previous ∈ subjects.lookup package, previous = resolvedVersion)
    s!"first-party dependency {package} is declared at conflicting exact versions"
  return update subjects package resolvedVersion

def validateTable (subjects : List (String × String))
    (table : String × Document) : Except String (List (String × String)) :=
  table.2.foldlM (validateDependency repr table.1) subjects

def validateManifest (order : List String) (manifestPath : String)
    (document : Document) : Except String (List (String × String)) := do
  checkPatch document
  checkReplace document
  let subjects ← (iterDependencyTables order document).foldlM
    (validateTable repr) []
  ensure (subjects ≠ [])
    s!"workload manifest declares no first-party OxideBatch validation subject: {manifestPath}"
  return subjects

/-! ### The lockfile -/

/-- The packages of a lockfile that are tables. -/
def lockedPackages (packages : List Value) : List Document :=
  packages.filterMap (fun package =>
    match package with
    | .table entries => some entries
    | _ => none)

/-- A package with this name and version. -/
def isLocked (name version : String) (package : Document) : Bool :=
  text? package "name" == some name && text? package "version" == some version

def matchesOf (packages : List Value) (subject : String × String) :
    List Document :=
  (lockedPackages packages).filter (isLocked subject.1 subject.2)

/-- The source is one of the canonical ones; a value that cannot be hashed is
no member of a set. -/
def checkSource (subject : String × String) (package : Document) :
    Except String Unit :=
  match get? package "source" with
  | some (.array _) => .error "unhashable type: 'list'"
  | some (.table _) => .error "unhashable type: 'dict'"
  | some (.text source) => ensure (source ∈ cratesIoSources)
      s!"lockfile {subject.1} {subject.2} does not resolve from canonical crates.io: {repr (.text source)}"
  | some other => .error
      s!"lockfile {subject.1} {subject.2} does not resolve from canonical crates.io: {repr other}"
  | none => .error
      s!"lockfile {subject.1} {subject.2} does not resolve from canonical crates.io: None"

def validateSubject (packages : List Value) (subject : String × String) :
    Except String Unit :=
  match matchesOf packages subject with
  | [package] => do
      checkSource repr subject package
      ensure (∃ checksum ∈ text? package "checksum",
          isChecksum checksum = true)
        s!"lockfile {subject.1} {subject.2} is missing a valid crates.io checksum"
  | found => .error
      s!"lockfile must contain exactly one {subject.1} {subject.2} package, found {found.length}"

/-- The subjects in the order of their names. -/
def sortedItems (subjects : List (String × String)) :
    List (String × String) :=
  subjects.insertionSort (fun left right => left.1 ≤ right.1)

def validateLockfile (lockfilePath : String) (document : Document)
    (subjects : List (String × String)) : Except String Unit :=
  match get? document "package" with
  | some (.array packages) =>
      (sortedItems subjects).forM (validateSubject repr packages)
  | _ => .error s!"lockfile has no package array: {lockfilePath}"

end

end Provenance
