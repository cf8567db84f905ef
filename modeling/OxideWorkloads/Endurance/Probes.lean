/-
What the probes of the resource sampler read of a process and of the evidence
filesystem: the texts of the process file system and the table that `df`
prints.
-/

import OxideWorkloads.Endurance.Sampler
import OxideWorkloads.Foundation.TextLines
import OxideWorkloads.Foundation.Word

namespace Endurance

open Foundation
open Foundation.Checks
open Foundation.Text (splitWhitespace)

def parseU64 (word : List Char) : Except String UInt64 :=
  (Text.parseInteger u64Max (String.ofList word)).map UInt64.ofNat

theorem parseU64_eq_ok {word : List Char} {value : UInt64} :
    parseU64 word = .ok value ↔
      Text.parseUnsigned u64Max (String.ofList word) =
        some value.toNat := by
  unfold parseU64
  rw [← Text.parseInteger_eq_ok]
  cases read : Text.parseInteger u64Max (String.ofList word) with
  | error failure =>
      constructor
      · intro impossible
        cases impossible
      · intro impossible
        cases impossible
  | ok number =>
      have bounded := (Text.parseUnsigned_eq_some.mp
        (Text.parseInteger_eq_ok.mp read)).2
      have limit : u64Max = 18446744073709551615 := rfl
      have same : (UInt64.ofNat number).toNat = number :=
        UInt64.toNat_ofNat_of_lt' (by change number < 2 ^ 64; omega)
      constructor
      · intro reads
        cases reads
        rw [same]
      · intro reads
        cases reads
        exact congrArg Except.ok UInt64.ofNat_toNat

/-! ### Processes -/

inductive ProcFile where
  | found (content : String)
  | notFound
  | failed (error : String)

/-- The first line with the resident set decides. -/
def parseRssLines : List String → Except String (Option UInt64)
  | [] => .ok none
  | line :: rest =>
      match Text.stripPrefix line "VmRSS:" with
      | none => parseRssLines rest
      | some value => do
          let word ← require (splitWhitespace value).head?
            "VmRSS line is missing numeric value"
          let kib ← context "parse VmRSS KiB" (parseU64 word)
          let bytes ← require (Word.checkedMul kib 1024)
            "VmRSS byte conversion overflow"
          return some bytes

def parseRssBytes (status : String) : Except String (Option UInt64) :=
  parseRssLines (Text.lines status)

/-- What follows the byte after the command.  The offset may lie behind the
end of the text, or inside a character. -/
def afterSecondByte : List Char → Option (List Char)
  | [] => none
  | char :: rest => if char.utf8Size = 1 then some rest else none

def parseCpuTicks (stat : String) : Except String UInt64 := do
  let (_, after) ← require (Text.rsplitOnce stat ')')
    "proc stat is missing command closing parenthesis"
  let rest ← require (afterSecondByte after.toList)
    "proc stat is truncated after command"
  let fields := Words.words Text.isWhitespace rest
  ensure (12 < fields.length)
    "proc stat does not contain utime/stime fields"
  let userTicks ← context "parse proc utime ticks"
    (parseU64 (fields.getD 11 []))
  let systemTicks ← context "parse proc stime ticks"
    (parseU64 (fields.getD 12 []))
  require (Word.checkedAdd userTicks systemTicks)
    "process CPU tick sum overflow"

/-- The ticks, or that the process has gone since its status was read. -/
def readCpuTicks (statPath : String) :
    ProcFile → Except String (Option UInt64 × Bool)
  | .found stat => do
      let ticks ← parseCpuTicks stat
      return (some ticks, false)
  | .notFound => .ok (none, true)
  | .failed error => .error ("read process stat " ++ statPath ++ ": " ++ error)

def unavailableReason (rssMissing cpuMissing : Bool) : Option String :=
  match rssMissing, cpuMissing with
  | false, false => none
  | true, false => some "rss-unavailable"
  | false, true => some "process-exited-before-cpu-sample"
  | true, true => some "rss-and-cpu-unavailable"

def processObservationLinux (procFile : String → ProcFile)
    (target : ProcessTarget) : Except String ProcessObservation :=
  let statusPath := s!"/proc/{target.pid}/status"
  let statPath := s!"/proc/{target.pid}/stat"
  match procFile statusPath with
  | .notFound =>
      .ok
        { pid := target.pid
          role := target.role
          rssBytes := none
          cpuTimeTicks := none
          unavailableReason := some "process-exited-before-sample" }
  | .failed error =>
      .error ("read process status " ++ statusPath ++ ": " ++ error)
  | .found status => do
      let rssBytes ← parseRssBytes status
      let (cpuTimeTicks, cpuMissing) ← readCpuTicks statPath
        (procFile statPath)
      return {
        pid := target.pid
        role := target.role
        rssBytes := rssBytes
        cpuTimeTicks := cpuTimeTicks
        unavailableReason := unavailableReason rssBytes.isNone cpuMissing }

theorem readCpuTicks_missing {statPath : String} {file : ProcFile}
    {ticks : Option UInt64} {missing : Bool}
    (reads : readCpuTicks statPath file = .ok (ticks, missing)) :
    missing = ticks.isNone := by
  cases file with
  | found stat =>
      unfold readCpuTicks at reads
      simp only [bind_eq_ok, pure_eq_ok] at reads
      obtain ⟨value, _, same⟩ := reads
      cases same
      rfl
  | notFound =>
      cases reads
      rfl
  | failed error => cases reads

/-- An observation says why something is missing exactly when something
is. -/
theorem processObservationLinux_reason {procFile : String → ProcFile}
    {target : ProcessTarget} {observation : ProcessObservation}
    (observed : processObservationLinux procFile target =
      .ok observation) :
    observation.unavailableReason = none ↔
      observation.rssBytes.isSome = true ∧
        observation.cpuTimeTicks.isSome = true := by
  simp only [processObservationLinux] at observed
  split at observed
  · cases observed
    simp
  · cases observed
  · simp only [bind_eq_ok, pure_eq_ok] at observed
    obtain ⟨rssBytes, _, ⟨ticks, missing⟩, reads, same⟩ := observed
    cases same
    rw [readCpuTicks_missing reads]
    cases rssBytes with
    | none => cases ticks <;> simp [unavailableReason]
    | some bytes => cases ticks <;> simp [unavailableReason]

/-! ### The filesystem of the evidence -/

/-- A run of `df`: how it ended, and what it printed, if that is text. -/
structure DfOutput where
  success : Bool
  status : String
  stdout : Except String String
  stderr : String

def kibToBytes (value : UInt64) : Except String UInt64 :=
  require (Word.checkedMul value 1024)
    "filesystem KiB-to-byte conversion overflow"

/-- The observation that the last line of the table makes. -/
def observeRow (line : String) : Except String FilesystemObservation := do
  let columns := splitWhitespace line
  ensure (6 ≤ columns.length)
    ("df data row has fewer than six columns: " ++ line)
  let totalKib ← context "parse df total KiB" (parseU64 (columns.getD 1 []))
  let usedKib ← context "parse df used KiB" (parseU64 (columns.getD 2 []))
  let availableKib ← context "parse df available KiB"
    (parseU64 (columns.getD 3 []))
  let totalBytes ← kibToBytes totalKib
  let usedBytes ← kibToBytes usedKib
  let availableBytes ← kibToBytes availableKib
  return {
    totalBytes := totalBytes
    usedBytes := usedBytes
    availableBytes := availableBytes }

def filesystemObservationDf (path : String) (run : Except String DfOutput) :
    Except String FilesystemObservation := do
  let output ← context ("run df for evidence path " ++ path) run
  ensure (output.success = true)
    ("df failed for evidence path " ++ path ++ ": status=" ++ output.status ++
      " stderr=" ++ output.stderr)
  let stdout ← context "df output is not UTF-8" output.stdout
  let line ← require
    ((Text.lines stdout).reverse.find? (fun line => !Text.isBlank line))
    "df returned no data row"
  observeRow line

end Endurance
