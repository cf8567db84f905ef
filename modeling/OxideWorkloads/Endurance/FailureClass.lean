/-
The class of a failed child, read from a message that also holds what the
child printed.
-/

import OxideWorkloads.Endurance.Iteration
import OxideWorkloads.Foundation.Phrases

namespace Endurance

open Foundation
open Foundation.Phrases

/-! ### The steps that report a child -/

/-- The children of an iteration, by the step that waits for them. -/
inductive ChildStep where
  | run
  | plainRelaunch
  | recover
  | continuation
  | verify
  | crash
  deriving DecidableEq

namespace ChildStep

def phase : ChildStep → String
  | run => "run"
  | plainRelaunch => "plain relaunch"
  | recover => "recover"
  | continuation => "continuation"
  | verify => "verify"
  | crash => "crash"

/-- The child ended as the step does not accept. -/
def rejects (step : ChildStep) (status : ExitStatus) : Bool :=
  match step with
  | plainRelaunch => status.success
  | crash => !(status.success == false && status.signal == some 9)
  | _ => !status.success

/-- The class that the step is meant to have. -/
def failureClass : ChildStep → FailureClass
  | verify => .verification
  | crash => .harnessEnvironment
  | _ => .workloadChild

end ChildStep

/-- How a child ended. -/
def endedProcess (pid : UInt32) (output : ChildOutput) : ChildProcessResult :=
  { pid := pid
    success := output.status.success
    code := output.status.code
    status := output.status.text }

/-- The message of a step that rejects its child. -/
def ChildStep.text (step : ChildStep) (pid : UInt32) (output : ChildOutput) :
    String :=
  match step with
  | .plainRelaunch =>
      s!"{step.phase} unexpectedly succeeded: " ++
        childReport (endedProcess pid output) output
  | .crash =>
      "crash child was not terminated by external SIGKILL: " ++
        s!"pid={pid.toNat} status={output.status.text} " ++
        s!"code={debugCode output.status.code} signal={debugCode output.status.signal}\n" ++
        s!"stdout={output.stdout}\nstderr={output.stderr}"
  | _ =>
      s!"{step.phase} child failed: " ++
        childReport (endedProcess pid output) output

/-! ### Phrases in a report -/

theorem contains_iff {text part : String} :
    contains text part = true ↔ part.toList <:+: text.toList := by
  unfold contains
  rw [List.any_eq_true, List.infix_iff_prefix_suffix]
  constructor
  · intro found
    obtain ⟨rest, member, initial⟩ := found
    exact ⟨rest, List.isPrefixOf_iff_prefix.mp initial,
      List.mem_tails _ _ |>.mp member⟩
  · intro found
    obtain ⟨rest, initial, final⟩ := found
    exact ⟨rest, List.mem_tails _ _ |>.mpr final,
      List.isPrefixOf_iff_prefix.mpr initial⟩

def ChildOutput.texts (output : ChildOutput) : List String :=
  [output.status.text, output.stdout, output.stderr]

/-- The rendered codes of a message. -/
def ChildStep.codes (step : ChildStep) (status : ExitStatus) : List Char :=
  match step with
  | .crash => (debugCode status.code ++ " signal").toList ++
      '=' :: (debugCode status.signal).toList
  | _ => (debugCode status.code).toList

/-- Which of the phrases a complaint holds by itself. -/
def ChildStep.own : ChildStep → List Bool
  | .run => [false, false, true, false, false, false]
  | .plainRelaunch => [false, false, false, false, false, true]
  | .recover => [false, false, false, true, false, false]
  | .continuation => [false, false, false, false, true, false]
  | .verify => [false, true, false, false, false, false]
  | .crash => [false, false, false, false, false, false]

end Endurance
