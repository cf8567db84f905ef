/-
The aggregate jobs of the workflow.  The MSRV job writes a disposition for every
entry without an MSRV before the verdict over the whole registry is computed;
the supply-chain job scans every real workload itself.

Writing a file may fail; which writes do is given from outside, and so is what
a scan of a workload ends with.
-/

import OxideWorkloads.Ci.ShardResults

namespace Aggregate

open Foundation
open Foundation.Checks
open Registry (Members get? at_ isBlank)

section Jobs

variable (repr : Json → String) (floatIs : String → Int → Bool)

/-! ### The entries of a matrix -/

/-- The policy of an entry, if it has the form of one. -/
def policyOf (entry : Members) : Option (Bool × Members) :=
  match at_ entry "msrv" with
  | .object msrv => (at_ msrv "declared").asBool.map (fun declared =>
      (declared, msrv))
  | _ => none

def checkDeclared (name : String) (msrv : Members) : Except String Unit := do
  ensure ((at_ msrv "version").asString.any (fun version =>
      isBlank version = false) = true)
    s!"{repr (.string name)} declared MSRV entry is missing a resolved version"
  ensure ((at_ msrv "policy_reason").isNull = true ∨
      (at_ msrv "policy_reason").asString = some "")
    s!"{repr (.string name)} declared MSRV entry unexpectedly contains a policy reason"

def checkUndeclared (name : String) (msrv : Members) :
    Except String Unit := do
  ensure ((at_ msrv "version").isNull = true)
    s!"{repr (.string name)} undeclared MSRV entry unexpectedly contains a version"
  ensure ((at_ msrv "policy_reason").asString.any (fun reason =>
      isBlank reason = false) = true)
    s!"{repr (.string name)} undeclared MSRV entry requires a non-empty policy reason"

def checkPolicy (name : String) (declared : Bool) (msrv : Members) :
    Except String Unit :=
  if declared then checkDeclared repr name msrv
  else checkUndeclared repr name msrv

/-- One turn of the loop over the entries of a matrix. -/
def parseEntry (seen : List String) (raw : Json) :
    Except String (String × Members) :=
  match raw with
  | .object entry => do
      let name ← require (at_ entry "name").asString
        ("discovery output contains invalid workload name: " ++
          repr (at_ entry "name"))
      ensure (¬(name = "" ∨ '/' ∈ name.toList ∨ name = "." ∨ name = ".."))
        ("discovery output contains invalid workload name: " ++
          repr (at_ entry "name"))
      ensure (name ∉ seen)
        s!"discovery output contains duplicate workload name: {repr (.string name)}"
      let (declared, msrv) ← require (policyOf entry)
        s!"{repr (.string name)} discovery MSRV policy is malformed"
      checkPolicy repr name declared msrv
      return (name, entry)
  | _ => .error "discovery output contains a non-object entry"

/-- The name, the flag and the reason of an entry that has been checked. -/
def entryName (entry : Members) : String :=
  (at_ entry "name").asString.getD ""

variable (writeFails : List String → Option String)

def discoveryName (entry : Json) : Except String String :=
  let message := "supply-chain discovery contains a malformed workload entry"
  match entry with
  | .object members => do
      let name ← require (at_ members "name").asString message
      ensure (name ≠ "") message
      return name
  | _ => .error message

def parseDiscoveryJson (discoverJson : Except String Json) :
    Except String (List String) :=
  match discoverJson with
  | .error error => .error s!"cannot parse supply-chain discovery JSON: {error}"
  | .ok matrix => do
      let entries ← require (includeOf matrix)
        "supply-chain discovery must contain a non-empty 'include' array"
      ensure (entries ≠ [])
        "supply-chain discovery must contain a non-empty 'include' array"
      let names ← entries.mapM discoveryName
      ensure names.Nodup
        "supply-chain discovery contains duplicate workload names"
      return names

def canonicalRealWorkloads (registry : Except String Registry.Discovered) :
    Except String (List String) :=
  match registry with
  | .error error => .error s!"canonical registry validation failed: {error}"
  | .ok found => do
      let names := found.workloads.map Registry.Entry.name
      ensure (names ≠ []) "canonical registry contains zero real workloads"
      return names

def verifyDiscoveryNames (discovered canonical : List String) :
    Except String (List String) := do
  ensure (discovered = canonical)
    s!"supply-chain discovery/canonical-registry mismatch: discovered={repr (.array (discovered.map Json.string))}, canonical={repr (.array (canonical.map Json.string))}"
  return canonical

def verifyDiscoveryContract (registry : Except String Registry.Discovered)
    (discoverJson : Except String Json) : Except String (List String) := do
  let discovered ← parseDiscoveryJson discoverJson
  let canonical ← canonicalRealWorkloads registry
  verifyDiscoveryNames repr discovered canonical

/-- The failures of the scans; every workload is scanned, whatever the scans
before it end with. -/
def runAll (scan : String → Except String Int) (names : List String) :
    List String :=
  names.filterMap (fun name =>
    match scan name with
    | .error error => some s!"{name}: {error}"
    | .ok exitCode =>
        if exitCode ≠ 0 then
          some s!"{name}: validator exited with code {exitCode}"
        else none)

/-- The job is skipped on a draft pull request; elsewhere it passes or fails. -/
def supplyChainJobPasses (registry : Except String Registry.Discovered)
    (discoverJson : Except String Json) (scan : String → Except String Int) :
    Bool :=
  match verifyDiscoveryContract repr registry discoverJson with
  | .ok names => runAll scan names = []
  | .error _ => false

end Jobs

end Aggregate
