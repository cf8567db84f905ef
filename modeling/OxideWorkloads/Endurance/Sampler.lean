/-
The resource sampler of an iteration: the state it shares with the observer,
and its loop, one step for each thing it does under the lock or to the sample
log.

The observer and the loop take turns in an order that nothing fixes.  Beside
the state a history keeps what was enqueued, appended and failed, in order; no
step looks at it.
-/

import OxideWorkloads.Endurance.Records
import OxideWorkloads.Foundation.Checks
import OxideWorkloads.Foundation.LineLog

namespace Endurance

open Foundation
open Foundation.LineLog (Bytes)
open Foundation.Checks

/-! ### Observations -/

structure ProcessObservation where
  pid : UInt32
  role : String
  rssBytes : Option UInt64
  cpuTimeTicks : Option UInt64
  unavailableReason : Option String
  deriving DecidableEq

structure FilesystemObservation where
  totalBytes : UInt64
  usedBytes : UInt64
  availableBytes : UInt64
  deriving DecidableEq

structure PostgresObservation where
  totalConnections : Int64
  activeConnections : Int64
  databaseSizeBytes : Int64
  deriving DecidableEq

structure MetadataObservation where
  jobInstances : Int64
  jobExecutions : Int64
  stepExecutions : Int64
  jobInstanceTableBytes : Int64
  jobExecutionTableBytes : Int64
  stepExecutionTableBytes : Int64
  deriving DecidableEq

structure ResourceSampleRecord where
  timestampUnixNanosUtc : Nat
  campaignId : String
  sequence : Nat
  sampleKind : String
  sampleIntervalMillis : Nat
  process : Option ProcessObservation
  postgres : PostgresObservation
  oxideBatch : MetadataObservation
  filesystem : FilesystemObservation
  deriving DecidableEq

def ProcessObservation.toJson (process : ProcessObservation) : Json :=
  .object
    [("pid", .ofNat process.pid.toNat),
      ("role", .string process.role),
      ("rss_bytes", .ofOption (fun value => .ofNat value.toNat)
        process.rssBytes),
      ("cpu_time_ticks", .ofOption (fun value => .ofNat value.toNat)
        process.cpuTimeTicks),
      ("unavailable_reason", .ofOption .string process.unavailableReason)]

def PostgresObservation.toJson (postgres : PostgresObservation) : Json :=
  .object
    [("total_connections", .integer postgres.totalConnections.toInt),
      ("active_connections", .integer postgres.activeConnections.toInt),
      ("database_size_bytes", .integer postgres.databaseSizeBytes.toInt)]

def MetadataObservation.toJson (metadata : MetadataObservation) : Json :=
  .object
    [("job_instances", .integer metadata.jobInstances.toInt),
      ("job_executions", .integer metadata.jobExecutions.toInt),
      ("step_executions", .integer metadata.stepExecutions.toInt),
      ("job_instance_table_bytes",
        .integer metadata.jobInstanceTableBytes.toInt),
      ("job_execution_table_bytes",
        .integer metadata.jobExecutionTableBytes.toInt),
      ("step_execution_table_bytes",
        .integer metadata.stepExecutionTableBytes.toInt)]

def FilesystemObservation.toJson (filesystem : FilesystemObservation) : Json :=
  .object
    [("total_bytes", .ofNat filesystem.totalBytes.toNat),
      ("used_bytes", .ofNat filesystem.usedBytes.toNat),
      ("available_bytes", .ofNat filesystem.availableBytes.toNat)]

/-- A sample is serialized from its structure, field by field. -/
def ResourceSampleRecord.toJson (sample : ResourceSampleRecord) : Json :=
  .object
    [("schema", .string sampleSchema),
      ("schema_version", .ofNat schemaVersion),
      ("timestamp_unix_nanos_utc", .ofNat sample.timestampUnixNanosUtc),
      ("campaign_id", .string sample.campaignId),
      ("sequence", .ofNat sample.sequence),
      ("sample_kind", .string sample.sampleKind),
      ("sample_interval_millis", .ofNat sample.sampleIntervalMillis),
      ("process", .ofOption ProcessObservation.toJson sample.process),
      ("postgres", sample.postgres.toJson),
      ("oxide_batch", sample.oxideBatch.toJson),
      ("filesystem", sample.filesystem.toJson)]

/-! ### The shared state and the loop -/

structure ProcessTarget where
  pid : UInt32
  role : String
  deriving DecidableEq

structure BoundaryRequest where
  kind : String
  process : Option ProcessObservation
  deriving DecidableEq

structure SamplerState where
  active : Option ProcessTarget
  boundaries : List BoundaryRequest
  failure : Option String
  started : Bool
  stop : Bool

def SamplerState.default : SamplerState :=
  { active := none
    boundaries := []
    failure := none
    started := false
    stop := false }

structure SamplerContext where
  samplesPath : String
  campaignId : String
  sequence : Nat
  intervalMillis : Nat

/-- Where the loop stands.  `write` holds what the last drain took out. -/
inductive SamplerPhase where
  | drain
  | write (boundaries : List BoundaryRequest) (active : Option ProcessTarget)
      (started stop : Bool)
  | check
  | failing (error : String)
  | finished (result : Except String Nat)

inductive SamplerEvent where
  | enqueued (boundary : BoundaryRequest)
  | appended (sample : ResourceSampleRecord)
  | failed (error : String)

structure Sampler where
  context : SamplerContext
  state : SamplerState
  phase : SamplerPhase
  samplesWritten : Nat
  history : List SamplerEvent

/-- A sampler that has just been spawned. -/
def Sampler.spawn (context : SamplerContext) : Sampler :=
  { context := context
    state := .default
    phase := .drain
    samplesWritten := 0
    history := [] }

/-- What the environment answers to one step of the loop.  `landed` is absent
when the sample log cannot be opened. -/
structure SamplerInput where
  due : Bool
  process : ProcessTarget → Except String ProcessObservation
  postgres : Except String PostgresObservation
  metadata : Except String MetadataObservation
  filesystem : Except String FilesystemObservation
  nanos : Option Nat
  landed : Option Nat
  fault : Option String

/-- The time as the records store it. -/
def unixNanos (nanos : Option Nat) : Except String Nat :=
  match nanos with
  | none => .error "system clock is before UNIX epoch"
  | some nanos =>
      if nanos ≤ u64Max then .ok nanos
      else .error "current UNIX nanosecond timestamp does not fit u64"

def collectSample (context : SamplerContext) (kind : String)
    (process : Option ProcessObservation) (input : SamplerInput) :
    Except String ResourceSampleRecord := do
  let postgres ← Checks.context
    "observe PostgreSQL connection/database size" input.postgres
  let oxideBatch ← Checks.context "observe OxideBatch metadata growth"
    input.metadata
  let filesystem ← input.filesystem
  let timestamp ← unixNanos input.nanos
  return {
    timestampUnixNanosUtc := timestamp
    campaignId := context.campaignId
    sequence := context.sequence
    sampleKind := kind
    sampleIntervalMillis := context.intervalMillis
    process := process
    postgres := postgres
    oxideBatch := oxideBatch
    filesystem := filesystem }

/-- The line of the sample log that holds a sample. -/
def sampleLine (sample : ResourceSampleRecord) : Bytes :=
  Json.compact sample.toJson ++ [LineLog.newline]

namespace Sampler

def fail (sampler : Sampler) (error : String) : Sampler :=
  { sampler with
    phase := .failing error
    history := sampler.history ++ [.failed error] }

/-- Put a boundary at the end of the queue. -/
def enqueue (sampler : Sampler) (boundary : BoundaryRequest) : Sampler :=
  { sampler with
    state :=
      { sampler.state with
        boundaries := sampler.state.boundaries ++ [boundary] }
    history := sampler.history ++ [.enqueued boundary] }

/-- The boundary that starts the sampler is marked when it is enqueued. -/
def submit (sampler : Sampler) (boundary : BoundaryRequest) : Sampler :=
  { sampler with
    state :=
      { sampler.state with
        started := sampler.state.started ||
          boundary.kind = "sampler-start" } }.enqueue boundary

/-- Take one sample and append it to the sample log, then go on to `next`. -/
def writeSample (sampler : Sampler) (kind : String)
    (process : Option ProcessObservation) (input : SamplerInput)
    (next : SamplerPhase) (samples : Option Bytes) :
    Sampler × Option Bytes :=
  match collectSample sampler.context kind process input with
  | .error error => (sampler.fail error, samples)
  | .ok sample =>
      match input.fault with
      | some error =>
          (sampler.fail (s!"append {sampler.context.samplesPath}: " ++ error),
            match input.landed with
            | none => samples
            | some landed =>
                some (samples.getD [] ++ (sampleLine sample).take landed))
      | none =>
          ({ sampler with
              phase := next
              samplesWritten := sampler.samplesWritten + 1
              history := sampler.history ++ [.appended sample] },
            some (samples.getD [] ++ sampleLine sample))

/-- One step of the loop. -/
def step (input : SamplerInput) (sampler : Sampler)
    (samples : Option Bytes) : Sampler × Option Bytes :=
  match sampler.phase with
  | .drain =>
      ({ sampler with
          state := { sampler.state with boundaries := [] }
          phase := .write sampler.state.boundaries sampler.state.active
            sampler.state.started sampler.state.stop }, samples)
  | .write (boundary :: rest) active started stop =>
      sampler.writeSample boundary.kind boundary.process input
        (.write rest active started stop) samples
  | .write [] active started stop =>
      if started = true ∧ stop = false ∧ input.due = true then
        match active with
        | none => sampler.writeSample "periodic" none input .check samples
        | some target =>
            match input.process target with
            | .error error => (sampler.fail error, samples)
            | .ok process =>
                sampler.writeSample "periodic" (some process) input .check
                  samples
      else ({ sampler with phase := .check }, samples)
  | .check =>
      if sampler.state.stop = true ∧ sampler.state.boundaries = [] then
        ({ sampler with phase := .finished (.ok sampler.samplesWritten) },
          samples)
      else ({ sampler with phase := .drain }, samples)
  | .failing error =>
      ({ sampler with
          state :=
            { sampler.state with
              failure := some error
              stop := true }
          phase := .finished (.error error) }, samples)
  | .finished _ => (sampler, samples)

def run (inputs : List SamplerInput) (sampler : Sampler)
    (samples : Option Bytes) : Sampler × Option Bytes :=
  inputs.foldl (fun current input => step input current.1 current.2)
    (sampler, samples)

end Sampler

/-! ### What the history says -/

def SamplerEvent.boundary? : SamplerEvent → Option BoundaryRequest
  | .enqueued boundary => some boundary
  | _ => none

def SamplerEvent.sample? : SamplerEvent → Option ResourceSampleRecord
  | .appended sample => some sample
  | _ => none

/-- The boundaries ever enqueued, in order. -/
def enqueuedBoundaries (history : List SamplerEvent) : List BoundaryRequest :=
  history.filterMap SamplerEvent.boundary?

/-- The samples appended, in order. -/
def appendedSamples (history : List SamplerEvent) :
    List ResourceSampleRecord :=
  history.filterMap SamplerEvent.sample?

/-- The boundaries that the samples other than periodic ones are about. -/
def boundarySamples (samples : List ResourceSampleRecord) :
    List BoundaryRequest :=
  (samples.filter (fun sample => sample.sampleKind ≠ "periodic")).map
    (fun sample => { kind := sample.sampleKind, process := sample.process })

/-- Something failed: an observation, a probe or an append. -/
def HasFailed (history : List SamplerEvent) : Prop :=
  ∃ error, SamplerEvent.failed error ∈ history

/-- The sampler was started before this point of the history. -/
def StartEnqueued (history : List SamplerEvent) : Prop :=
  ∃ boundary ∈ enqueuedBoundaries history, boundary.kind = "sampler-start"

/-- Every periodic sample comes after the start. -/
def PeriodicAfterStart (history : List SamplerEvent) : Prop :=
  ∀ before sample after,
    history = before ++ SamplerEvent.appended sample :: after →
      sample.sampleKind = "periodic" → StartEnqueued before

section History

variable {history : List SamplerEvent}

@[simp] theorem enqueuedBoundaries_append (event : SamplerEvent) :
    enqueuedBoundaries (history ++ [event]) =
      enqueuedBoundaries history ++ event.boundary?.toList := by
  rw [enqueuedBoundaries, List.filterMap_append]
  cases event <;> rfl

@[simp] theorem appendedSamples_append (event : SamplerEvent) :
    appendedSamples (history ++ [event]) =
      appendedSamples history ++ event.sample?.toList := by
  rw [appendedSamples, List.filterMap_append]
  cases event <;> rfl

theorem boundarySamples_append (samples : List ResourceSampleRecord)
    (sample : ResourceSampleRecord) :
    boundarySamples (samples ++ [sample]) =
      boundarySamples samples ++
        if sample.sampleKind = "periodic" then []
        else [{ kind := sample.sampleKind, process := sample.process }] := by
  by_cases periodic : sample.sampleKind = "periodic" <;>
    simp [boundarySamples, periodic]

theorem StartEnqueued.append (started : StartEnqueued history)
    (event : SamplerEvent) : StartEnqueued (history ++ [event]) := by
  obtain ⟨boundary, member, kind⟩ := started
  exact ⟨boundary, by simp [member], kind⟩

theorem hasFailed_append {event : SamplerEvent} :
    HasFailed (history ++ [event]) ↔
      HasFailed history ∨ ∃ error, event = .failed error := by
  simp only [HasFailed, List.mem_append, List.mem_singleton]
  constructor
  · rintro ⟨error, inHistory | same⟩
    · exact Or.inl ⟨error, inHistory⟩
    · exact Or.inr ⟨error, same.symm⟩
  · rintro (⟨error, inHistory⟩ | ⟨error, same⟩)
    · exact ⟨error, Or.inl inHistory⟩
    · exact ⟨error, Or.inr same.symm⟩

theorem PeriodicAfterStart.append (holds : PeriodicAfterStart history)
    {event : SamplerEvent}
    (late : ∀ sample, event = .appended sample →
      sample.sampleKind = "periodic" → StartEnqueued history) :
    PeriodicAfterStart (history ++ [event]) := by
  intro before sample after shape periodic
  rcases List.eq_nil_or_concat after with rfl | ⟨more, last, rfl⟩
  · obtain ⟨same, sameEvent⟩ := List.append_inj' shape rfl
    injection sameEvent with sameHead
    rw [← same]
    exact late sample sameHead periodic
  · rw [List.concat_eq_append, ← List.cons_append, ← List.append_assoc]
      at shape
    exact holds before sample more (List.append_inj' shape rfl).1 periodic

end History

/-! ### Nothing is lost and nothing is duplicated -/

/-- Nothing has stopped the loop. -/
def SamplerPhase.Working : SamplerPhase → Prop
  | .failing _ => False
  | .finished (.error _) => False
  | _ => True

/-- Drained, and not yet written. -/
def SamplerPhase.inHand : SamplerPhase → List BoundaryRequest
  | .write boundaries _ _ _ => boundaries
  | _ => []

namespace Sampler

/-- The accounts of a sampler that began behind `before` bytes of samples. -/
structure Accounts (before : Bytes) (sampler : Sampler)
    (samples : Option Bytes) : Prop where
  written :
    sampler.samplesWritten = (appendedSamples sampler.history).length
  kinds : ∀ boundary ∈ enqueuedBoundaries sampler.history,
    boundary.kind ≠ "periodic"
  settled : sampler.phase.Working → enqueuedBoundaries sampler.history =
    boundarySamples (appendedSamples sampler.history) ++
      (sampler.phase.inHand ++ sampler.state.boundaries)
  bytes : sampler.phase.Working → samples.getD [] =
    before ++ (appendedSamples sampler.history).flatMap sampleLine
  started : sampler.state.started = true → StartEnqueued sampler.history
  snapshot : ∀ {rest active stop}, sampler.phase = .write rest active true stop →
    StartEnqueued sampler.history
  periodic : PeriodicAfterStart sampler.history
  failure : sampler.state.failure.isSome → ¬sampler.phase.Working
  finished : ∀ {count}, sampler.phase = .finished (.ok count) →
    count = sampler.samplesWritten ∧ sampler.state.boundaries = [] ∧
      sampler.state.stop = true

variable {before : Bytes} {sampler : Sampler} {samples : Option Bytes}

theorem accounts_spawn (context : SamplerContext) (samples : Option Bytes) :
    Accounts (samples.getD []) (spawn context) samples where
  written := rfl
  kinds := by simp [spawn, enqueuedBoundaries]
  settled := fun _ => rfl
  bytes := fun _ => by simp [spawn, appendedSamples]
  started := by simp [spawn, SamplerState.default]
  snapshot := by simp [spawn]
  periodic := by
    intro before sample after shape _
    simp [spawn] at shape
  failure := by simp [spawn, SamplerState.default]
  finished := by simp [spawn]

/-- A loop that fails keeps the accounts of what it did before. -/
theorem Accounts.fail (accounts : Accounts before sampler samples)
    (error : String) (after : Option Bytes) :
    Accounts before (sampler.fail error) after where
  written := by simpa [Sampler.fail, SamplerEvent.sample?]
    using accounts.written
  kinds := by simpa [Sampler.fail, SamplerEvent.boundary?]
    using accounts.kinds
  settled := fun working => working.elim
  bytes := fun working => working.elim
  started := fun started => (accounts.started started).append _
  snapshot := by simp [Sampler.fail]
  periodic := accounts.periodic.append (by simp)
  failure := fun _ working => working.elim
  finished := by simp [Sampler.fail]

/-- One sample more.  A boundary sample is about the first boundary in hand; a
periodic one is taken after the start. -/
theorem Accounts.writeSample (accounts : Accounts before sampler samples)
    (working : sampler.phase.Working) {kind : String}
    {process : Option ProcessObservation} (input : SamplerInput)
    {next : SamplerPhase}
    (taken : sampler.phase.inHand =
      (if kind = "periodic" then [] else [{ kind := kind, process := process }])
        ++ next.inHand)
    (late : kind = "periodic" → StartEnqueued sampler.history)
    (snapshot : ∀ {rest active stop}, next = .write rest active true stop →
      StartEnqueued sampler.history)
    (unfinished : ∀ {result}, next ≠ .finished result) :
    Accounts before (sampler.writeSample kind process input next samples).1
      (sampler.writeSample kind process input next samples).2 := by
  unfold Sampler.writeSample
  cases collects : collectSample sampler.context kind process input with
  | error error => exact accounts.fail error samples
  | ok sample =>
      have shape : sample.sampleKind = kind ∧ sample.process = process := by
        simp only [collectSample, bind_eq_ok, pure_eq_ok] at collects
        obtain ⟨_, _, _, _, _, _, _, _, rfl⟩ := collects
        exact ⟨rfl, rfl⟩
      cases input.fault with
      | some error => exact accounts.fail _ _
      | none =>
          simp only
          have settled := accounts.settled working
          refine
            { written := ?_
              kinds := ?_
              settled := fun _ => ?_
              bytes := fun _ => ?_
              started := fun started => (accounts.started started).append _
              snapshot := fun same => (snapshot same).append _
              periodic := accounts.periodic.append ?_
              failure := fun failed => absurd working (accounts.failure failed)
              finished := fun same => absurd same unfinished }
          · simp [SamplerEvent.sample?, accounts.written]
          · simpa [SamplerEvent.boundary?] using accounts.kinds
          · simp only [enqueuedBoundaries_append, appendedSamples_append,
              SamplerEvent.boundary?, SamplerEvent.sample?, Option.toList,
              boundarySamples_append, List.append_nil, settled, taken,
              shape.1, shape.2, List.append_assoc]
          · simp [SamplerEvent.sample?, accounts.bytes working,
              List.append_assoc]
          · intro other same periodic
            injection same with sameSample
            rw [← sameSample, shape.1] at periodic
            exact late periodic

theorem Accounts.step (accounts : Accounts before sampler samples)
    (input : SamplerInput) :
    Accounts before (sampler.step input samples).1
      (sampler.step input samples).2 := by
  unfold Sampler.step
  cases phase : sampler.phase with
  | drain =>
      have working : sampler.phase.Working := by rw [phase]; trivial
      have settled := accounts.settled working
      exact
        { accounts with
          settled := fun _ => by
            simpa [phase, SamplerPhase.inHand] using settled
          bytes := fun _ => accounts.bytes working
          snapshot := fun same => by
            injection same with _ _ started
            exact accounts.started started
          failure := fun failed => absurd working (accounts.failure failed)
          finished := by simp }
  | write boundaries active started stop =>
      have working : sampler.phase.Working := by rw [phase]; trivial
      have begun : started = true → StartEnqueued sampler.history := by
        rintro rfl
        exact accounts.snapshot phase
      cases boundaries with
      | cons boundary rest =>
          have kind : boundary.kind ≠ "periodic" := by
            apply accounts.kinds
            rw [accounts.settled working, phase]
            simp [SamplerPhase.inHand]
          refine accounts.writeSample working input ?_ (fun same =>
            absurd same kind) ?_ (by simp)
          · rw [phase, if_neg kind]
            rfl
          · intro _ _ _ same
            injection same with _ _ running
            exact begun running
      | nil =>
          simp only
          split_ifs with due
          · have write : ∀ process, Accounts before
                (sampler.writeSample "periodic" process input .check samples).1
                (sampler.writeSample "periodic" process input .check
                  samples).2 := by
              intro process
              refine accounts.writeSample working input ?_
                (fun _ => begun due.1) (by simp) (by simp)
              rw [phase, if_pos rfl]
              rfl
            cases active with
            | none => exact write none
            | some target =>
                simp only
                cases input.process target with
                | error error => exact accounts.fail error samples
                | ok process => exact write (some process)
          · have settled := accounts.settled working
            exact
              { accounts with
                settled := fun _ => by
                  simpa [phase, SamplerPhase.inHand] using settled
                bytes := fun _ => accounts.bytes working
                snapshot := by simp
                failure := fun failed =>
                  absurd working (accounts.failure failed)
                finished := by simp }
  | check =>
      have working : sampler.phase.Working := by rw [phase]; trivial
      have settled := accounts.settled working
      simp only
      split_ifs with stopped
      · exact
          { accounts with
            settled := fun _ => by
              simpa [phase, SamplerPhase.inHand] using settled
            bytes := fun _ => accounts.bytes working
            snapshot := by simp
            failure := fun failed => absurd working (accounts.failure failed)
            finished := fun same => by
              cases same
              exact ⟨rfl, stopped.2, stopped.1⟩ }
      · exact
          { accounts with
            settled := fun _ => by
              simpa [phase, SamplerPhase.inHand] using settled
            bytes := fun _ => accounts.bytes working
            snapshot := by simp
            failure := fun failed => absurd working (accounts.failure failed)
            finished := by simp }
  | failing error =>
      exact
        { accounts with
          settled := fun working => working.elim
          bytes := fun working => working.elim
          snapshot := by simp
          failure := fun _ working => working.elim
          finished := by simp }
  | finished result => exact accounts

theorem Accounts.run (accounts : Accounts before sampler samples)
    (inputs : List SamplerInput) :
    Accounts before (sampler.run inputs samples).1
      (sampler.run inputs samples).2 := by
  unfold Sampler.run
  induction inputs generalizing sampler samples with
  | nil => exact accounts
  | cons input rest ih => exact ih (accounts.step input)

/-- What the loop leaves alone: it enqueues nothing, forgets no failure, stops
itself only by failing and does not go on after a failure. -/
structure Advanced (sampler after : Sampler) : Prop where
  enqueued : enqueuedBoundaries after.history =
    enqueuedBoundaries sampler.history
  failure : sampler.state.failure.isSome → after.state.failure.isSome
  stop : after.state.stop = true →
    sampler.state.stop = true ∨ after.state.failure.isSome
  untroubled : (sampler.phase.Working → ¬HasFailed sampler.history) →
    after.phase.Working → ¬HasFailed after.history

theorem advanced_fail (error : String) :
    Advanced sampler (sampler.fail error) where
  enqueued := by simp [Sampler.fail, SamplerEvent.boundary?]
  failure := id
  stop := Or.inl
  untroubled := fun _ working => working.elim

theorem advanced_writeSample (working : sampler.phase.Working)
    (kind : String) (process : Option ProcessObservation)
    (input : SamplerInput) (next : SamplerPhase) :
    Advanced sampler
      (sampler.writeSample kind process input next samples).1 := by
  unfold Sampler.writeSample
  cases collectSample sampler.context kind process input with
  | error error => exact advanced_fail error
  | ok sample =>
      cases input.fault with
      | some error => exact advanced_fail _
      | none =>
          exact
            { enqueued := by simp [SamplerEvent.boundary?]
              failure := id
              stop := Or.inl
              untroubled := fun clean _ => by
                rw [hasFailed_append]
                simpa using clean working }

theorem advanced_step (input : SamplerInput) :
    Advanced sampler (sampler.step input samples).1 := by
  unfold Sampler.step
  cases phase : sampler.phase with
  | drain =>
      exact ⟨rfl, id, Or.inl, fun clean _ => clean (by rw [phase]; trivial)⟩
  | write boundaries active started stop =>
      have working : sampler.phase.Working := by rw [phase]; trivial
      cases boundaries with
      | cons boundary rest => exact advanced_writeSample working _ _ _ _
      | nil =>
          simp only
          split_ifs
          · cases active with
            | none => exact advanced_writeSample working _ _ _ _
            | some target =>
                simp only
                cases input.process target with
                | error error => exact advanced_fail error
                | ok process => exact advanced_writeSample working _ _ _ _
          · exact ⟨rfl, id, Or.inl, fun clean _ => clean working⟩
  | check =>
      have working : sampler.phase.Working := by rw [phase]; trivial
      simp only
      split_ifs <;> exact ⟨rfl, id, Or.inl, fun clean _ => clean working⟩
  | failing error =>
      exact ⟨rfl, fun _ => rfl, fun _ => Or.inr rfl, fun _ working =>
        working.elim⟩
  | finished result => exact ⟨rfl, id, Or.inl, id⟩

theorem Advanced.trans {middle after : Sampler}
    (first : Advanced sampler middle) (second : Advanced middle after) :
    Advanced sampler after where
  enqueued := second.enqueued.trans first.enqueued
  failure := fun failed => second.failure (first.failure failed)
  stop := fun stopped => by
    rcases second.stop stopped with earlier | failed
    · rcases first.stop earlier with before | failed
      · exact Or.inl before
      · exact Or.inr (second.failure failed)
    · exact Or.inr failed
  untroubled := fun clean => second.untroubled (first.untroubled clean)

theorem advanced_run (inputs : List SamplerInput) :
    Advanced sampler (sampler.run inputs samples).1 := by
  unfold Sampler.run
  induction inputs generalizing sampler samples with
  | nil => exact ⟨rfl, id, Or.inl, id⟩
  | cons input rest ih => exact (advanced_step input).trans ih

/-- The observer enqueues only while the loop is not told to stop. -/
theorem Accounts.submit (accounts : Accounts before sampler samples)
    (running : sampler.state.stop = false) {boundary : BoundaryRequest}
    (kind : boundary.kind ≠ "periodic") :
    Accounts before (sampler.submit boundary) samples where
  written := by simpa [Sampler.submit, Sampler.enqueue, SamplerEvent.sample?]
    using accounts.written
  kinds := by
    intro other member
    simp only [Sampler.submit, Sampler.enqueue, enqueuedBoundaries_append,
      SamplerEvent.boundary?, Option.toList, List.mem_append,
      List.mem_singleton] at member
    rcases member with inHistory | rfl
    · exact accounts.kinds other inHistory
    · exact kind
  settled := fun working => by
    simp [Sampler.submit, Sampler.enqueue, SamplerEvent.boundary?,
      SamplerEvent.sample?, accounts.settled working]
  bytes := fun working => by
    simpa [Sampler.submit, Sampler.enqueue, SamplerEvent.sample?]
      using accounts.bytes working
  started := by
    intro started
    simp only [Sampler.submit, Sampler.enqueue, Bool.or_eq_true,
      decide_eq_true_eq] at started
    rcases started with earlier | now
    · exact (accounts.started earlier).append _
    · exact ⟨boundary, by simp [Sampler.submit, Sampler.enqueue,
        SamplerEvent.boundary?], now⟩
  snapshot := fun same => (accounts.snapshot same).append _
  periodic := accounts.periodic.append (by simp)
  failure := accounts.failure
  finished := fun same => by
    have stopped := (accounts.finished same).2.2
    rw [running] at stopped
    cases stopped

/-! ### A loop that meets no failure comes to its end -/

/-- An environment in which every observation and every append succeeds. -/
def quietInput : SamplerInput :=
  { due := false
    process := fun target =>
      .ok
        { pid := target.pid
          role := target.role
          rssBytes := none
          cpuTimeTicks := none
          unavailableReason := some "process-exited-before-sample" }
    postgres := .ok ⟨1, 1, 0⟩
    metadata := .ok ⟨0, 0, 0, 0, 0, 0⟩
    filesystem := .ok ⟨0, 0, 0⟩
    nanos := some 0
    landed := none
    fault := none }

theorem writeSample_quiet (sampler : Sampler) (samples : Option Bytes)
    (kind : String) (process : Option ProcessObservation)
    (next : SamplerPhase) :
    ∃ sample, (sampler.writeSample kind process quietInput next samples).1 =
      { sampler with
        phase := next
        samplesWritten := sampler.samplesWritten + 1
        history := sampler.history ++ [.appended sample] } :=
  ⟨_, rfl⟩

theorem run_cons (input : SamplerInput) (rest : List SamplerInput) :
    sampler.run (input :: rest) samples =
      (sampler.step input samples).1.run rest
        (sampler.step input samples).2 :=
  rfl

/-- Writing out what is in hand and looking at the stop flag. -/
theorem run_quiet_write (boundaries : List BoundaryRequest)
    {active : Option ProcessTarget} {started stop : Bool}
    (phase : sampler.phase = .write boundaries active started stop)
    (stopped : sampler.state.stop = true)
    (empty : sampler.state.boundaries = []) :
    (sampler.run (List.replicate (boundaries.length + 2) quietInput)
      samples).1.phase =
        .finished (.ok (sampler.samplesWritten + boundaries.length)) := by
  induction boundaries generalizing sampler samples with
  | nil =>
      simp [run, List.replicate, step, phase, quietInput, stopped, empty]
  | cons boundary rest ih =>
      obtain ⟨sample, written⟩ := writeSample_quiet sampler samples
        boundary.kind boundary.process
        (.write rest active started stop)
      have first : (sampler.step quietInput samples).1 =
          { sampler with
            phase := .write rest active started stop
            samplesWritten := sampler.samplesWritten + 1
            history := sampler.history ++ [.appended sample] } := by
        simpa only [step, phase] using written
      have later := @ih (sampler.step quietInput samples).1
        (sampler.step quietInput samples).2 (by rw [first]) (by rw [first]; exact stopped)
        (by rw [first]; exact empty)
      rw [first] at later
      rw [List.length_cons, Nat.add_right_comm, List.replicate_succ, run_cons,
        first, later]
      simp only [Nat.add_assoc, Nat.add_comm 1]

/-- A loop that is told to stop writes what was enqueued and ends. -/
theorem run_quiet (phase : sampler.phase = .drain)
    (stopped : sampler.state.stop = true) :
    (sampler.run
      (List.replicate (sampler.state.boundaries.length + 3) quietInput)
      samples).1.phase =
        .finished (.ok
          (sampler.samplesWritten + sampler.state.boundaries.length)) := by
  rw [List.replicate_succ, run_cons]
  have first : sampler.step quietInput samples =
      ({ sampler with
          state := { sampler.state with boundaries := [] }
          phase := .write sampler.state.boundaries sampler.state.active
            sampler.state.started sampler.state.stop }, samples) := by
    simp only [step, phase]
  rw [first]
  exact run_quiet_write sampler.state.boundaries rfl stopped rfl

end Sampler

end Endurance
