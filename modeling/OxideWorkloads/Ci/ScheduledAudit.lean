/-
The scheduled supply-chain audit: it scans every real workload that discovery
prints, and tells a confirmed policy verdict from any other failure of a scan.

A command is what it exits with and prints.  The JSON parser and the rendering
of values are given from outside, as is which characters beyond ASCII are part
of a word.
-/

import OxideWorkloads.Ci.AuditReports
import OxideWorkloads.Ci.ShardResults
import OxideWorkloads.Foundation.PythonText
import OxideWorkloads.Foundation.Scanning

namespace ScheduledAudit

open Foundation
open Foundation.Checks
open Foundation.Scanning (Pattern findAll removeAll)
open Registry (at_ get? sortTexts)
open AuditIssue (SupplyChain.Audit)

/-! ### The texts of a scan -/

/-- The characters after a literal that a text begins with. -/
def afterLiteral (literal text : List Char) : Option (List Char) :=
  if literal.isPrefixOf text then some (text.drop literal.length) else none

def inRange (low high : Nat) (char : Char) : Bool :=
  low ≤ char.toNat && char.toNat ≤ high

/-- An escape sequence: its parameters, what stands between, its final
character. -/
def ansiEscape : Pattern Char Unit := fun _ text => do
  let rest ← afterLiteral [Char.ofNat 0x1B, '['] text
  let middle := rest.dropWhile (inRange 0x30 0x3F)
  let final := middle.dropWhile (inRange 0x20 0x2F)
  let last ← final.head?
  if inRange 0x40 0x7E last then
    some ((), text.length - final.length)
  else none

def stripAnsi (value : List Char) : List Char :=
  removeAll ansiEscape 0 none value

/-- The checks of a policy, as the pattern lists them. -/
def policyChecks : List String :=
  ["advisories", "licenses", "bans", "sources", "additional-ecosystem"]

variable (isWord : Char → Bool)

/-- A word begins or ends between two characters. -/
def boundary (left right : Option Char) : Bool :=
  left.any isWord != right.any isWord

/-- A check that a text begins with, white space, and that it failed. -/
def failedCheck (text : List Char) (check : String) :
    Option (String × Nat) := do
  let rest ← afterLiteral check.toList text
  let verdict := rest.dropWhile Python.isSpace
  if (rest.takeWhile Python.isSpace) = [] then none
  else
    let after ← afterLiteral "FAILED".toList verdict
    if boundary isWord (some 'D') after.head? then
      some (check, text.length - after.length - 1)
    else none

def policyFailure : Pattern Char String := fun before text =>
  if boundary isWord before text.head? then
    policyChecks.findSome? (failedCheck isWord text)
  else none

/-- The failed checks of an output, each of them once, sorted. -/
def failedChecks (output : List Char) : List String :=
  sortTexts (findAll (policyFailure isWord) 0 none output).dedup

/-! ### The audit -/

/-- A command that has run. -/
structure Completed where
  returncode : Int
  stdout : String

def Completed.normalizedOutput (completed : Completed) : List Char :=
  stripAnsi (Python.strip completed.stdout.toList)

structure Finding where
  workload : String
  checks : List String
  output : String

def Finding.toJson (finding : Finding) : Json :=
  .object [("workload", .string finding.workload),
    ("checks", .array (finding.checks.map Json.string)),
    ("output", .string finding.output)]

variable (loads : String → Except String Json) (dumps repr : Json → String)
variable (floatIs : String → Int → Bool)

/-- The value of a key, and what is raised where there is none. -/
def subscript (key : String) : Json → Except String Json
  | .object members => require (get? members key) ("'" ++ key ++ "'")
  | .array _ => .error "list indices must be integers or slices, not str"
  | .string _ => .error "string indices must be integers, not 'str'"
  | .null => .error "'NoneType' object is not subscriptable"
  | .bool _ => .error "'bool' object is not subscriptable"
  | .integer _ => .error "'int' object is not subscriptable"
  | .float _ => .error "'float' object is not subscriptable"

/-- The entries that discovery prints, or why the audit has none. -/
def discoveredEntries (discovered : Completed) : Except String Json := do
  ensure (discovered.returncode = 0)
    ("canonical workload discovery failed:\n" ++ discovered.stdout)
  match loads discovered.stdout >>= subscript "include" with
  | .error exc =>
      .error ("canonical workload discovery returned malformed output: " ++
        exc ++ "\n" ++ discovered.stdout)
  | .ok entries =>
      ensure (Aggregate.truthy floatIs entries = true)
        "canonical workload discovery returned zero real workloads"
      return entries

/-- What a loop goes over. -/
def iterate : Json → Except String (List Json)
  | .array items => .ok items
  | .object members =>
      .ok ((members.map Prod.fst).eraseDups.map Json.string)
  | .string text =>
      .ok (text.toList.map (fun char => .string (String.ofList [char])))
  | .null => .error "'NoneType' object is not iterable"
  | .bool _ => .error "'bool' object is not iterable"
  | .integer _ => .error "'int' object is not iterable"
  | .float _ => .error "'float' object is not iterable"

/-- The name of an entry, if it has one. -/
def entryName : Json → Option String
  | .object members =>
      match at_ members "name" with
      | .string name => if name = "" then none else some name
      | _ => none
  | _ => none

structure Scanned where
  scanned : List String
  policyFindings : List Finding
  infrastructureFailures : List String

def Scanned.none : Scanned :=
  { scanned := []
    policyFindings := []
    infrastructureFailures := [] }

section

variable (scan : String → Completed)

def scanEntry (state : Scanned) (entry : Json) : Scanned :=
  match entryName entry with
  | .none =>
      { state with
        infrastructureFailures := state.infrastructureFailures ++
          ["malformed workload entry from canonical discovery: " ++
            repr entry] }
  | some name =>
      let completed := scan name
      let state := { state with scanned := state.scanned ++ [name] }
      if completed.returncode = 0 then state
      else
        let output := completed.normalizedOutput
        let checks := failedChecks isWord output
        if checks ≠ [] then
          { state with
            policyFindings := state.policyFindings ++
              [{ workload := name, checks, output := String.ofList output }] }
        else
          { state with
            infrastructureFailures := state.infrastructureFailures ++
              ["workload " ++ repr (.string name) ++
                (" scan failed without a confirmed supply-chain policy " ++
                  "verdict (exit ") ++ toString completed.returncode ++
                "):\n" ++ String.ofList output] }

def findingsText (findings : List Finding) : String :=
  dumps (.array (findings.map Finding.toJson))

/-- The result of the scans; a failure that is no verdict hides no finding, but
is what the audit ends with. -/
def conclude (state : Scanned) : SupplyChain.Audit :=
  if state.infrastructureFailures ≠ [] then
    { classification := "infrastructure-failure"
      workloads := state.scanned
      details := "\n\n".intercalate state.infrastructureFailures ++
        (if state.policyFindings ≠ [] then
          "\n\nConfirmed policy findings were also observed, but " ++
            "infrastructure failure prevents a complete audit:\n" ++
            findingsText dumps state.policyFindings
        else "") }
  else if state.policyFindings ≠ [] then
    { classification := "policy-finding"
      workloads := state.scanned
      details := findingsText dumps state.policyFindings }
  else
    { classification := "clean"
      workloads := state.scanned
      details := "all registered real workload graphs passed " ++
        "the canonical supply-chain policy" }

/-- The audit; an error is an exception that ends the script. -/
def runLiveAudit (discovered : Completed) :
    Except String SupplyChain.Audit :=
  match discoveredEntries loads floatIs discovered with
  | .error details =>
      .ok { classification := "infrastructure-failure"
            workloads := []
            details }
  | .ok value => do
      let entries ← iterate value
      return conclude dumps
        (entries.foldl (scanEntry isWord repr scan) Scanned.none)

end

end ScheduledAudit
