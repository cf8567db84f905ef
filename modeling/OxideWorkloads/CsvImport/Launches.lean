/-
Launches of the CSV import against an input file that is replaced meanwhile.

A launch opens the path twice, once for the SHA-256 that identifies the job
instance and once for its reader.  Of the framework the model has what the
launch relies on: an instance for each identity, one chunk transaction that
commits rows and reader state together and is refused once the execution has
changed, and no second execution of a completed or a running instance.
-/

import OxideWorkloads.CsvImport.Import

namespace CsvImport

open Foundation
open Foundation.LineLog (Bytes)
open Projection (hexDigest)

def sha256OfFile (platform : Platform) (content : Bytes) : String :=
  hexDigest (platform.sha256 content).toList

/-- The reader of the framework: its state can be stored and restored, and
reading on after some records gives the records behind them. -/
structure DelimitedReader (platform : Platform) where
  State : Type
  start : State
  rest : Bytes → State → List (Except String (List String))
  advance : Bytes → State → Nat → State
  rest_start : ∀ content, rest content start = platform.records content
  rest_advance : ∀ content state count,
    rest content (advance content state count) =
      (rest content state).drop count

/-- The rows of some records, if the reader and the processor accept them. -/
def rowOf (platform : Platform) :
    Except String (List String) → Option CustomerRow
  | .ok record => (process platform record).toOption
  | .error _ => none

def rowsOf (platform : Platform)
    (records : List (Except String (List String))) :
    Option (List CustomerRow) :=
  records.mapM (rowOf platform)

inductive BatchStatus where
  | resumable
  | started
  | completed
  deriving DecidableEq

section

variable {platform : Platform} (reader : DelimitedReader platform)

/-- A job instance: the status and the version of its last execution, the
stored state of the reader and the rows it has committed. -/
structure JobInstance where
  status : BatchStatus
  version : Nat
  checkpoint : reader.State
  committed : List CustomerRow

def JobInstance.fresh : JobInstance reader :=
  { status := .resumable
    version := 0
    checkpoint := reader.start
    committed := [] }

/-- How far a launch is.  Before it runs it has hashed the file, then opened
it again. -/
inductive Phase where
  | starting
  | hashed (inputSha256 : String)
  | opened (inputSha256 : String) (content : Bytes)
  | running (inputSha256 : String) (content : Bytes) (version : Nat)
      (state : reader.State)
  | ended

structure Launch where
  chunkSize : Nat
  phase : Phase reader

/-- The path, the instances of one import name, and the launches. -/
structure World where
  content : Bytes
  instances : String → JobInstance reader
  launches : List (Launch reader)

def World.initial (content : Bytes) : World reader :=
  { content
    instances := fun _ => JobInstance.fresh reader
    launches := [] }

/-- What happens next: the content of the path is replaced, a launch starts,
goes on, fails or is killed, or an operator recovers the instance of the
content. -/
inductive Event where
  | replace (content : Bytes)
  | launch (chunkSize : Nat)
  | move (position : Nat)
  | fail (position : Nat)
  | kill (position : Nat)
  | recover

variable {reader}

def World.setLaunch (world : World reader) (position : Nat)
    (launch : Launch reader) (phase : Phase reader) : World reader :=
  { world with
    launches := world.launches.set position { launch with phase } }

def World.setInstance (world : World reader) (inputSha256 : String)
    (job : JobInstance reader) : World reader :=
  { world with
    instances := fun other =>
      if other = inputSha256 then job else world.instances other }

/-- The execution of a launch begins, unless the instance is completed or has
an execution. -/
def World.begin (world : World reader) (position : Nat)
    (launch : Launch reader) (inputSha256 : String) (content : Bytes) :
    World reader :=
  let job := world.instances inputSha256
  if launch.chunkSize = 0 ∨ job.status ≠ .resumable then
    world.setLaunch position launch .ended
  else
    (world.setInstance inputSha256
      { job with status := .started, version := job.version + 1 }).setLaunch
        position launch
        (.running inputSha256 content (job.version + 1) job.checkpoint)

/-- The next chunk of a running launch, or its end. -/
def World.chunk (world : World reader) (position : Nat)
    (launch : Launch reader) (inputSha256 : String) (content : Bytes)
    (version : Nat) (state : reader.State) : World reader :=
  let job := world.instances inputSha256
  if job.version ≠ version then world.setLaunch position launch .ended
  else
    match reader.rest content state with
    | [] =>
        (world.setInstance inputSha256
          { job with status := .completed, version := version + 1 }).setLaunch
            position launch .ended
    | first :: others =>
        let records := (first :: others).take launch.chunkSize
        match rowsOf platform records with
        | none =>
            (world.setInstance inputSha256 { job with
              status := .resumable
              version := version + 1 }).setLaunch position launch .ended
        | some rows =>
            let next := reader.advance content state records.length
            (world.setInstance inputSha256 { job with
              version := version + 1
              checkpoint := next
              committed := job.committed ++ rows }).setLaunch position launch
                (.running inputSha256 content (version + 1) next)

def World.move (world : World reader) (position : Nat)
    (launch : Launch reader) : World reader :=
  match launch.phase with
  | .starting => world.setLaunch position launch
      (.hashed (sha256OfFile platform world.content))
  | .hashed inputSha256 =>
      world.setLaunch position launch (.opened inputSha256 world.content)
  | .opened inputSha256 content =>
      world.begin position launch inputSha256 content
  | .running inputSha256 content version state =>
      world.chunk position launch inputSha256 content version state
  | .ended => world

/-- The chunk in flight is rolled back and the execution ends as failed. -/
def World.fail (world : World reader) (position : Nat)
    (launch : Launch reader) : World reader :=
  match launch.phase with
  | .running inputSha256 _ version _ =>
      let job := world.instances inputSha256
      if job.version ≠ version then world.setLaunch position launch .ended
      else
        (world.setInstance inputSha256
          { job with status := .resumable, version := version + 1 }).setLaunch
            position launch .ended
  | _ => world.setLaunch position launch .ended

/-- The last execution of the instance of the present content is marked as
failed if it has not ended. -/
def World.recover (world : World reader) : World reader :=
  let inputSha256 := sha256OfFile platform world.content
  let job := world.instances inputSha256
  if job.status = .started then
    world.setInstance inputSha256
      { job with status := .resumable, version := job.version + 1 }
  else world

/-- What a launch does, if there is one at this position. -/
def World.atLaunch (world : World reader) (position : Nat)
    (change : Launch reader → World reader) : World reader :=
  match world.launches[position]? with
  | some launch => change launch
  | none => world

def World.step (world : World reader) : Event → World reader
  | .replace content => { world with content }
  | .launch chunkSize =>
      { world with
        launches := world.launches ++ [{ chunkSize, phase := .starting }] }
  | .move position => world.atLaunch position (world.move position)
  | .fail position => world.atLaunch position (world.fail position)
  | .kill position => world.atLaunch position
      (fun launch => world.setLaunch position launch .ended)
  | .recover => world.recover

end

end CsvImport
