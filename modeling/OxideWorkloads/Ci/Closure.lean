/-
The semantic closure of a workload: which files of a producer tree its
selectors select, the recorded entries as they are checked, and their digest.

Documents are what the JSON parser makes of the manifest; of the git commands
only the tree they list is seen here.  The quoting of texts in the errors is
given from outside.
-/

import Mathlib.Data.Prod.Lex
import Mathlib.Data.String.Basic
import OxideWorkloads.Foundation.Checks
import OxideWorkloads.Foundation.Dict
import OxideWorkloads.Foundation.Json
import OxideWorkloads.Foundation.PythonText
import OxideWorkloads.Foundation.SortedKeys
import OxideWorkloads.Projection.SourceContent

namespace Closure

open Foundation
open Foundation.Checks
open Foundation.SortedKeys
open Projection (hexDigest)

/-- A path with its mode and the object id of its blob. -/
structure Entry where
  path : String
  mode : String
  gitBlobOid : String
  deriving DecidableEq

/-- The order of the tuples. -/
def Entry.key (entry : Entry) : String ×ₗ String ×ₗ String :=
  toLex (entry.path, toLex (entry.mode, entry.gitBlobOid))

/-- A producer tree: the mode and the object id of each path. -/
abbrev Tree := Dict String (String × String)

/-! ### Selection -/

def rstripSlash (text : List Char) : List Char :=
  (text.reverse.dropWhile (fun char => char = '/')).reverse

/-- The path is the selector, or is below it. -/
def selects (selector path : String) : Bool :=
  path = selector ||
    (rstripSlash selector.toList ++ ['/']).isPrefixOf path.toList

/-- Entries put into a dictionary, one after another. -/
def update (selected : Tree) (matched : List (String × String × String)) :
    Tree :=
  matched.foldl (fun selected entry => selected.set entry.1 entry.2) selected

/-- What the selectors select, or nothing if one of them matches no path. -/
def selectAll (tree : Tree) : List String → Tree → Option Tree
  | [], selected => some selected
  | selector :: rest, selected =>
      let matched := tree.entries.filter
        (fun entry => selects selector entry.1)
      if matched = [] then none
      else selectAll tree rest (update selected matched)

def toEntry (item : String × String × String) : Entry :=
  { path := item.1
    mode := item.2.1
    gitBlobOid := item.2.2 }

def trySelectClosure (tree : Tree) (includes : List String) :
    Option (List Entry) :=
  (selectAll tree includes Dict.empty).map (fun selected =>
    (sortBy Prod.fst selected.entries).map toEntry)

/-! ### Digest -/

def Entry.payload (entry : Entry) : List UInt8 :=
  Json.utf8 entry.path ++ 0 :: (Json.utf8 entry.mode ++
    0 :: (Json.utf8 entry.gitBlobOid ++ [0x0A]))

def closureDigest (sha256 : List UInt8 → Vector UInt8 32)
    (entries : List Entry) : String :=
  hexDigest (sha256 ((sortBy Entry.key entries).flatMap
    Entry.payload)).toList

/-! ### Recorded entries -/

section Parsing

variable (repr : String → String)

def regularGitModes : List String := ["100644", "100755"]

def isLowerHex (char : Char) : Bool :=
  char.isDigit || (decide ('a' ≤ char) && decide (char ≤ 'f'))

/-- An object id of 40 digits. -/
def isHex40 (text : String) : Bool :=
  text.toList.length = 40 && text.toList.all isLowerHex

def requireKeys (value : Json) (expected : List String) (field : String) :
    Except String (List (String × Json)) :=
  match value with
  | .object members =>
      if members.map Prod.fst ⊆ expected ∧
          expected ⊆ members.map Prod.fst then .ok members
      else .error (field ++ " must contain exactly " ++
        ", ".intercalate (sortBy id expected))
  | _ => .error (field ++ " must contain exactly " ++
      ", ".intercalate (sortBy id expected))

def requireString (value : Option Json) (field : String) :
    Except String String :=
  match value with
  | some (.string text) =>
      if Python.strip text.toList = [] then
        .error (field ++ " must be a non-empty string")
      else .ok text
  | _ => .error (field ++ " must be a non-empty string")

def requireHex40 (value : Option Json) (field : String) :
    Except String String :=
  match value with
  | some (.string text) =>
      if isHex40 text then .ok text
      else .error
        (field ++ " must be lowercase hexadecimal with the required length")
  | _ => .error
      (field ++ " must be lowercase hexadecimal with the required length")

/-- The parts of a relative path.  Empty parts and those that stay where they
are are dropped. -/
def pathParts (text : List Char) : List (List Char) :=
  (text.splitOn '/').filter (fun part => part ≠ [] ∧ part ≠ ['.'])

def asPosix (text : List Char) : List Char :=
  if pathParts text = [] then ['.'] else ['/'].intercalate (pathParts text)

def safePath (value : Option Json) (field : String) :
    Except String String := do
  let text ← requireString value field
  ensure (text.toList.head? ≠ some '/' ∧
      ∀ part ∈ pathParts text.toList, part ∉ [[], ['.'], ['.', '.']])
    (field ++ " must be a safe relative path: " ++ repr text)
  return String.ofList (asPosix text.toList)

/-- One turn of the loop over the entries.  The paths seen so far are those of
the entries so far. -/
def parseEntry (includes : List String) (entries : List Entry) (index : Nat)
    (item : Json) : Except String Entry := do
  let field := s!"semantic_closure.entries[{index}]"
  let members ← requireKeys item ["path", "mode", "git_blob_oid"] field
  let path ← safePath repr ((Json.object members).get "path")
    (field ++ ".path")
  ensure (path ∉ entries.map Entry.path)
    ("semantic_closure.entries contains duplicate path: " ++ path)
  let mode ← requireString ((Json.object members).get "mode")
    (field ++ ".mode")
  ensure (mode ∈ regularGitModes)
    (field ++ ".mode must be a regular Git blob mode (100644 or 100755)")
  let oid ← requireHex40 ((Json.object members).get "git_blob_oid")
    (field ++ ".git_blob_oid")
  ensure (∃ selector ∈ includes, selects selector path = true)
    (field ++ ".path is outside semantic_closure.includes: " ++ path)
  return { path := path, mode := mode, gitBlobOid := oid }

def parseItems (includes : List String) (entries : List Entry) :
    Nat → List Json → Except String (List Entry)
  | _, [] => .ok entries
  | index, item :: rest => do
      let entry ← parseEntry repr includes entries index item
      parseItems includes (entries ++ [entry]) (index + 1) rest

/-- The selector has an entry. -/
def checkSelector (entries : List Entry) (selector : String) :
    Except String Unit :=
  ensure (∃ entry ∈ entries, selects selector entry.path = true)
    ("semantic_closure include selector has no recorded entry: " ++ selector)

def parseClosureEntries (value : Json) (includes : List String) :
    Except String (List Entry) :=
  match value with
  | .array (first :: rest) => do
      let entries ← parseItems repr includes [] 0 (first :: rest)
      ensure (entries.map Entry.path = sortBy id (entries.map Entry.path))
        "semantic_closure.entries must be sorted by path"
      includes.forM (checkSelector entries)
      return entries
  | _ => .error "semantic_closure.entries must be a non-empty array"

end Parsing

end Closure
