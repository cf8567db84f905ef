/-
What the children of an iteration print decides nothing but the message of the
step that rejects one of them.

Two environments are alike if their children print different texts and do
everything else alike; a family of alike environments is run side by side.
-/

import OxideWorkloads.Endurance.FailureClass
import OxideWorkloads.Endurance.Readiness
import OxideWorkloads.Endurance.Sampling
import OxideWorkloads.Foundation.Uniform

namespace Endurance

open Foundation
open Foundation.CrashRun
open Foundation.Checks

/-! ### The recorded execution -/

/-- The same end of a child that printed nothing. -/
def ChildOutput.muted (output : ChildOutput) : ChildOutput :=
  { output with
    stdout := ""
    stderr := "" }

def Answer.muted (answer : Answer) : Answer :=
  { answer with
    output := fun phase command => (answer.output phase command).muted
    crashOutput := answer.crashOutput.muted }

/-- The worlds differ at most in what their children are going to print. -/
structure Alike (world other : World) : Prop where
  disk : other.disk = world.disk
  sampler : other.sampler = world.sampler
  supply : ∀ index, (other.supply index).muted = (world.supply index).muted

/-- What the child of a step printed. -/
def ChildStep.output (step : ChildStep) (command : List String)
    (answer : Answer) : ChildOutput :=
  match step with
  | .crash => answer.crashOutput
  | _ => answer.output step.phase command

/-! ### Families of alike worlds -/

section Families

variable {ι : Type} (base : World) (worlds : ι → World)

/-- The worlds have gone the same way so far. -/
def Abreast (current : ι → World) : Prop :=
  ∃ used disk sampler, current = fun index =>
    { disk := disk
      sampler := sampler
      supply := fun next => (worlds index).supply (next + used) }

/-- The same failure, or that of a step that rejected its child. -/
def Failed (errors : ι → String) : Prop :=
  Same errors ∨ ∃ step pid command used,
    (ChildStep.rejects step
      (step.output command (base.supply used)).status = true) ∧
    errors = fun index => step.text pid
      (step.output command ((worlds index).supply used))

/-- A program that goes the same way in all worlds. -/
def Deaf {α : Type} (program : Program α) : Prop :=
  Uniform (Abreast worlds) Same Same (fun _ => program)

end Families

/-- The sampler moves alike. -/
theorem Abreast.advance {ι : Type} {worlds current : ι → World}
    (abreast : Abreast worlds current) (inputs : List SamplerInput) :
    Abreast worlds (fun index => (current index).advance inputs) := by
  obtain ⟨used, disk, sampler, equal⟩ := abreast
  subst equal
  let advanced := sampler.run inputs disk.samples
  exact ⟨used, { disk with samples := advanced.2 }, advanced.1, rfl⟩

section Effects

variable {ι α β : Type} {base : World} {worlds : ι → World}
  {failures : (ι → String) → Prop}

section Deaf

variable (alike : ∀ index, Alike base (worlds index))
include alike

end Deaf

/-! ### The steps of an iteration -/

theorem Deaf.known {program : Program α} (deaf : Deaf worlds program) :
    Uniform (Abreast worlds) Same (Failed base worlds) (fun _ => program) :=
  uniform_mono deaf (fun _ same => same) (fun _ same => Or.inl same)

/-- What a step says of its child. -/
def ChildStep.verdict (step : ChildStep) (pid : UInt32)
    (output : ChildOutput) : Except String Unit :=
  ensure (step.rejects output.status = false) (step.text pid output)

section Steps

variable (alike : ∀ index, Alike base (worlds index))
include alike

variable {observer : IterationObserver}
  (observes : ∀ phase detail, Deaf worlds (observer phase detail))
include observes

end Steps

end Effects

/-! ### Every iteration -/

section Exact

variable (setting : Setting) (store : EvidenceStore) (campaignId : String)
  (sequence : Nat) (extraObserver : Option String)

end Exact

/-! ### A verification that is not classified as one -/

/-- The same answer forever, without kills and faults. -/
structure Steady (answer : Answer) : Prop where
  survives : answer.killed = false
  works : answer.fault = none
  clock : ∃ nanos, unixNanos answer.nanos = .ok nanos

/-- The program returns the value if every answer is this one. -/
def Passes {α : Type} (answer : Answer) (program : Program α) (value : α) :
    Prop :=
  ∀ world : World, world.supply = (fun _ => answer) →
    ∃ after : World, after.supply = (fun _ => answer) ∧
      program world = (.ok value, after)

section Steadily

variable {answer : Answer} {α β : Type}

variable (steady : Steady answer)
include steady

end Steadily

end Endurance
