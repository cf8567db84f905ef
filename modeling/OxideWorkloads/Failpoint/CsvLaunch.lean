/-
One run of the csv import: the failing reader beside the failing writer and
transaction manager, as `run` wires them.

The framework reads records, and begins, writes and ends chunks, in an order of
its own; a run is any list of such calls.
-/

import OxideWorkloads.Failpoint.Decorators
import OxideWorkloads.Foundation.Dialogue
import OxideWorkloads.Foundation.Scripted

namespace Failpoint.CsvPostgres

open Foundation
open Foundation.CrashRun (onSecond)

/-! ### Readers -/

/-- The types that pass through the reader, and the error that the decorator
makes itself.  `Other` holds the outcomes without a record. -/
structure Reading where
  Record : Type
  Other : Type
  ReadContext : Type
  ReaderError : Type
  userComponent : ReaderError

inductive ReadOutcome (R : Reading) where
  | item (record : R.Record)
  | other (outcome : R.Other)

def ReadOutcome.isItem {R : Reading} : ReadOutcome R → Bool
  | .item _ => true
  | .other _ => false

/-- A reader with a state `ρ` of its own, beside the state of the others. -/
abbrev Reader (R : Reading) (ρ σ : Type) : Type :=
  R.ReadContext → CrashRun (ρ × σ) R.ReaderError (ReadOutcome R)

/-- The decorated reader's own state. -/
structure Rows (ρ : Type) where
  inner : ρ
  rowOrdinal : UInt64

variable {F : Framework} {R : Reading} {Transaction ρ σ ε α : Type}

/-- A program of the inner reader. -/
def insideReader (program : CrashRun (ρ × σ) ε α) :
    CrashRun (Rows ρ × World σ) ε α :=
  fun state =>
    let result := program (state.1.inner, state.2.inner)
    (result.1, ({ state.1 with inner := result.2.1 },
      { state.2 with inner := result.2.2 }))

/-- Count one more record; the counter wraps. -/
def nextRow : CrashRun (Rows ρ × World σ) ε UInt64 :=
  fun state =>
    let ordinal := state.1.rowOrdinal + 1
    (.ok ordinal, ({ state.1 with rowOrdinal := ordinal }, state.2))

structure FailingReader where
  failAtRow : UInt64
  hardCrash : Bool

def FailingReader.read (reader : FailingReader) (inner : Reader R ρ σ) :
    Reader R (Rows ρ) (World σ) := fun context => do
  let outcome ← insideReader (inner context)
  if outcome.isItem then do
    let ordinal ← nextRow
    if (ordinal == reader.failAtRow) = true then do
      onSecond storeFired
      onSecond (maybeAbort reader.hardCrash)
      CrashRun.fail R.userComponent
    else return outcome
  else return outcome

/-! ### The wiring -/

inductive FailAt where
  | chunk (ordinal : UInt32)
  | row (ordinal : UInt64)

/-- The row and the chunk to fail at. -/
def targets : Option FailAt → UInt64 × UInt32
  | some (.row ordinal) => (ordinal, 0)
  | some (.chunk ordinal) => (0, ordinal)
  | none => (0, 0)

/-- The objects that a run hands to the framework. -/
structure Objects (F : Framework) (R : Reading) (Transaction ρ σ : Type) where
  read : Reader R ρ σ
  chunk : Components F Transaction σ

def Objects.launched (failAt : Option FailAt) (mode : FailureMode)
    (hardCrash : Bool) (inner : Objects F R Transaction ρ σ) :
    Objects F R (FailingChunkTransaction Transaction Bool) (Rows ρ)
      (World σ) :=
  let (failAtRow, failAtChunk) := targets failAt
  let reader : FailingReader := { failAtRow, hardCrash }
  { read := reader.read inner.read
    chunk := decorated failAtChunk mode hardCrash inner.chunk }

/-! ### Runs -/

inductive JobCall (F : Framework) (R : Reading) where
  | read (context : R.ReadContext)
  | chunk (call : Call F)

inductive JobResponse (F : Framework) (R : Reading) where
  | read (outcome : Outcome R.ReaderError (ReadOutcome R))
  | chunk (response : Response F)

/-- The call never returned. -/
def JobResponse.halted : JobResponse F R → Bool
  | .read .killed => true
  | .read _ => false
  | .chunk response => response.halted

structure JobState (Transaction ρ σ : Type) where
  reader : ρ
  pipeline : Pipeline Transaction σ

def Objects.answer (objects : Objects F R Transaction ρ σ) :
    JobCall F R → JobState Transaction ρ σ →
      JobResponse F R × JobState Transaction ρ σ
  | .read context, state =>
      let result := objects.read context (state.reader, state.pipeline.state)
      (.read result.1,
        ⟨result.2.1, ⟨state.pipeline.current, result.2.2⟩⟩)
  | .chunk call, state =>
      let result := step objects.chunk call state.pipeline
      (.chunk result.1, ⟨state.reader, result.2⟩)

/-- The responses to the calls of a job. -/
def Objects.run (objects : Objects F R Transaction ρ σ) :
    List (JobCall F R) → JobState Transaction ρ σ →
      List (JobResponse F R) × JobState Transaction ρ σ :=
  Dialogue.converse JobResponse.halted objects.answer

/-- A job before its first call: both counters and the flag are new. -/
def JobState.fresh (reader : ρ) (world : World σ) :
    JobState (FailingChunkTransaction Transaction Bool) (Rows ρ) (World σ) :=
  { reader := { inner := reader, rowOrdinal := 0 }
    pipeline :=
      { current := none
        state := { world with chunkOrdinal := 0, fired := false } } }

end Failpoint.CsvPostgres
