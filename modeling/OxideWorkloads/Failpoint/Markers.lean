/-
The marker of a process that pauses for its kill: the texts that the workload
and the raw sqlx engine write, and one poll of each reader.

The writer of a marker waits for its kill, so a poll finds it running.  A
reader that asks for the size of the file reads it later, when more of the
text may have landed.
-/

import OxideWorkloads.Endurance.Iteration
import OxideWorkloads.Failpoint.Decorators
import OxideWorkloads.Foundation.PythonText
import OxideWorkloads.Foundation.TextWrites
import OxideWorkloads.Projection.RawSqlx

open Foundation

/-! ### Writers -/

namespace Failpoint.PostgresPostgres

/-- Where the failpoint fires. -/
def FailureMode.boundary : FailureMode → String
  | .duringWrite => "writer during-write"
  | .afterBusinessCommit => "after-business-commit"

/-- The marker is written at once. -/
def markerPieces (processId : Nat) (mode : FailureMode) : List String :=
  [markerText processId mode.boundary]

end Failpoint.PostgresPostgres

namespace Projection.RawSqlx

def PausePhase.asStr : PausePhase → String
  | .beforeCommit => "before-commit"
  | .afterCommit => "after-commit"

/-- The file is not buffered: each piece of the format is a write. -/
def markerPieces (processId : Nat) (chunk : UInt64) (phase : PausePhase) :
    List String :=
  ["pid=", Text.decimal processId, " chunk=", Text.decimal chunk.toNat,
    " phase=", phase.asStr, "\n"]

end Projection.RawSqlx

namespace Failpoint.Markers

/-! ### Readers -/

/-- What one poll ends with. -/
inductive Poll where
  | again
  | returned (pid : Nat)
  | failed (error : String)
  deriving DecidableEq

/-- The poll goes on or returns the process that wrote. -/
def Poll.Safe (pid : Nat) (poll : Poll) : Prop :=
  poll = .again ∨ poll = .returned pid

instance (pid : Nat) (poll : Poll) : Decidable (poll.Safe pid) :=
  inferInstanceAs (Decidable (_ ∨ _))

def Poll.ofExcept : Except String Nat → Poll
  | .ok pid => .returned pid
  | .error error => .failed error

/-- The endurance runner, with the file or without it. -/
def waitForPauseMarker (expectedBoundary : String) : Option String → Poll
  | none => .again
  | some contents =>
      match Endurance.parseMarker expectedBoundary contents with
      | none => .again
      | some (.error error) => .failed error
      | some (.ok marker) => .returned marker.pid.toNat

/-- The digits of `pid=([0-9]+)(?: .*)?`, if all of the line matches. -/
def fullmatchPid (line : List Char) : Option (List Char) :=
  if "pid=".toList.isPrefixOf line then
    let rest := line.drop 4
    let digits := rest.takeWhile Char.isDigit
    let tail := rest.dropWhile Char.isDigit
    if digits ≠ [] ∧ (tail = [] ∨ tail.head? = some ' ' ∧ '\n' ∉ tail) then
      some digits
    else none
  else none

/-- The process id in the first line of a marker. -/
def pidOfMarker (invalid : String → String) (text : String) :
    Except String Nat :=
  match Python.firstLine text.toList with
  | none => .error "list index out of range"
  | some line =>
      let first := Python.strip line
      let value := (fullmatchPid first).getD first
      if Python.isDigit value then .ok (Python.int value)
      else .error (invalid (String.ofList first))

/-- The paired benchmark; `repr` quotes a text. -/
def Paired.pidOfMarker (repr : String → String) : String → Except String Nat :=
  Markers.pidOfMarker
    (fun firstLine => s!"invalid crash marker pid line: {repr firstLine}")

def FourWay.markerPid : String → Except String Nat :=
  Markers.pidOfMarker (fun _ => "invalid crash marker PID")

/-- Read the file once it has a size: `sized` is what had landed when the size
was asked for, if there was a file. -/
def pollSized (markerPid : String → Except String Nat) (sized : Option String)
    (text : String) : Poll :=
  match sized with
  | none => .again
  | some early =>
      if early = "" then .again else .ofExcept (markerPid text)

def Paired.waitForMarker (repr : String → String) :
    Option String → String → Poll :=
  pollSized (Paired.pidOfMarker repr)

def FourWay.timedCrash : Option String → String → Poll :=
  pollSized FourWay.markerPid

end Failpoint.Markers
