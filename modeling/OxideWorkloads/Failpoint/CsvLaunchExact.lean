/-
A run without a chosen failpoint: the targets are 0, and the wrapping counters
reach 0 again.
-/

import OxideWorkloads.Failpoint.CsvLaunch
import OxideWorkloads.Failpoint.FiresExact

namespace Failpoint.CsvPostgres

open Foundation
open Foundation.CrashRun (onSecond)
open Foundation.Dialogue (Watch Watches)

variable {F : Framework} {R : Reading} {Transaction ρ σ ε : Type}

/-! ### The reader -/

/-- The reader returned a record. -/
def readsItem : Outcome ε (ReadOutcome R) → Bool
  | .ok outcome => outcome.isItem
  | _ => false

/-- The ordinal of the record that a reader returned, if it did. -/
def Rows.counted (rows : Rows ρ) (item : Bool) : UInt64 :=
  if item then rows.rowOrdinal + 1 else rows.rowOrdinal

/-- The rest of a program behind a call of the inner reader. -/
theorem insideReader_bind {α β : Type} (program : CrashRun (ρ × σ) ε α)
    (next : α → CrashRun (Rows ρ × World σ) ε β) (state : Rows ρ × World σ) :
    (insideReader program >>= next) state =
      match (program (state.1.inner, state.2.inner)).1 with
      | .ok value => next value (insideReader program state).2
      | .error error => (.error error, (insideReader program state).2)
      | .killed => (.killed, (insideReader program state).2) := by
  change CrashRun.bind (insideReader program) next state = _
  unfold CrashRun.bind insideReader
  cases program (state.1.inner, state.2.inner) with
  | mk outcome after => cases outcome <;> rfl

section Reader

variable (reader : FailingReader) (inner : Reader R ρ σ)
  (context : R.ReadContext) (state : Rows ρ × World σ)

/-- The record that is read now is the one to fail at. -/
def FailingReader.hits : Bool :=
  readsItem (inner context (state.1.inner, state.2.inner)).1 &&
    state.1.rowOrdinal + 1 == reader.failAtRow

/-- Every other record is passed on and counted. -/
theorem read_passes (quiet : reader.hits inner context state = false) :
    let passed := insideReader (inner context) state
    reader.read inner context state =
      (passed.1,
        ({ passed.2.1 with
            rowOrdinal := state.1.counted (readsItem passed.1) },
          passed.2.2)) := by
  unfold FailingReader.hits at quiet
  unfold FailingReader.read
  rw [insideReader_bind]
  have same : (insideReader (inner context) state).1 =
      (inner context (state.1.inner, state.2.inner)).1 := rfl
  simp only [same]
  cases ending : (inner context (state.1.inner, state.2.inner)).1 with
  | error failure => rfl
  | killed => rfl
  | ok outcome =>
      cases outcome with
      | other outcome => rfl
      | item record =>
          rw [ending] at quiet
          have elsewhere : ¬(state.1.rowOrdinal + 1 ==
              reader.failAtRow) = true := Bool.eq_false_iff.mp quiet
          exact congrFun (if_neg elsewhere) _

/-- The record to fail at sets the flag. -/
theorem read_strikes (loud : reader.hits inner context state = true) :
    (reader.read inner context state).2.2.fired = true ∧
      (reader.read inner context state).2.2.chunkOrdinal =
        state.2.chunkOrdinal := by
  unfold FailingReader.hits at loud
  obtain ⟨item, reached⟩ := Bool.and_eq_true_iff.mp loud
  unfold FailingReader.read
  rw [insideReader_bind]
  cases ending : (inner context (state.1.inner, state.2.inner)).1 with
  | error failure =>
      rw [ending] at item
      cases item
  | killed =>
      rw [ending] at item
      cases item
  | ok outcome =>
      rw [ending] at item
      cases outcome with
      | other outcome => cases item
      | item record =>
          change ((if (state.1.rowOrdinal + 1 == reader.failAtRow) = true
                then _ else _ : CrashRun (Rows ρ × World σ) R.ReaderError
                  (ReadOutcome R)) _).2.2.fired = true ∧
            ((if (state.1.rowOrdinal + 1 == reader.failAtRow) = true
                then _ else _ : CrashRun (Rows ρ × World σ) R.ReaderError
                  (ReadOutcome R)) _).2.2.chunkOrdinal = _
          rw [if_pos reached]
          cases reader.hardCrash <;> exact ⟨rfl, rfl⟩

end Reader

/-! ### When a counter is back at 0 -/

/-- The records read and the transactions begun so far. -/
structure History where
  items : Nat
  begun : Nat

def JobResponse.readsItem : JobResponse F R → Bool
  | .read outcome => CsvPostgres.readsItem outcome
  | .chunk _ => false

def JobCall.isBegin : JobCall F R → Bool
  | .read _ => false
  | .chunk call => call.isBegin

/-- The record is the 2^64th, or the chunk is written while the number of
begun transactions is a multiple of 2^32. -/
def wrapsToZero (mode : FailureMode) (inner : Objects F R Transaction ρ σ)
    (history : History) :
    JobCall F R → JobState Transaction ρ σ → Bool
  | .read context, state =>
      (history.items + 1) % 18446744073709551616 == 0 &&
        readsItem (inner.read context (state.reader, state.pipeline.state)).1
  | .chunk (.write items context), state =>
      history.begun % 4294967296 == 0 &&
        (mode == .beforeWrite ||
          (mode == .duringWrite &&
            (inner.chunk.write items context state.pipeline.state).1.isOk))
  | .chunk _, _ => false

def wrapWatch (mode : FailureMode) (inner : Objects F R Transaction ρ σ) :
    Watch (JobCall F R) (JobResponse F R) (JobState Transaction ρ σ)
      History :=
  { fires := wrapsToZero mode inner
    next := fun history call response =>
      { items := history.items + response.readsItem.toNat
        begun := history.begun + call.isBegin.toNat } }

/-- The job as the inner objects see it. -/
def JobState.plain (state : JobState
    (FailingChunkTransaction Transaction Bool) (Rows ρ) (World σ)) :
    JobState Transaction ρ σ :=
  ⟨state.reader.inner, Failpoint.plain state.pipeline⟩

/-- The decorated job stands where the plain one does, and has counted its
history. -/
structure Follows (mode : FailureMode) (hardCrash : Bool) (history : History)
    (state : JobState (FailingChunkTransaction Transaction Bool) (Rows ρ)
      (World σ))
    (other : JobState Transaction ρ σ) : Prop where
  plain : state.plain = other
  rowOrdinal : state.reader.rowOrdinal = UInt64.ofNat history.items
  chunkOrdinal :
    state.pipeline.state.chunkOrdinal = UInt32.ofNat history.begun
  fired : state.pipeline.state.fired = false
  armed : Armed (injection 0 mode hardCrash) hardCrash state.pipeline

/-- The flag is set, and stays so. -/
structure Spoiled (mode : FailureMode) (hardCrash : Bool)
    (state : JobState (FailingChunkTransaction Transaction Bool) (Rows ρ)
      (World σ)) : Prop where
  fired : state.pipeline.state.fired = true
  armed : Armed (injection 0 mode hardCrash) hardCrash state.pipeline

section Launched

variable {mode : FailureMode} {hardCrash : Bool}
  {inner : Objects F R Transaction ρ σ} {history : History}
  {other : JobState Transaction ρ σ}
  {state : JobState (FailingChunkTransaction Transaction Bool) (Rows ρ)
    (World σ)}

/-- The target 0 disarms the transaction manager. -/
theorem disarmed_silent {call : Call F} {pipeline : Pipeline Transaction σ}
    (unwritten : ∀ items context, call ≠ .write items context) :
    (injection 0 mode hardCrash).strikes (step inner.chunk call pipeline).1 =
      false := by
  have began : ∀ (begins : CrashRun σ F.TransactionError Transaction),
      (injection 0 mode hardCrash).strikes
        (started (F := F) begins pipeline.state).1 = false := by
    intro begins
    unfold started
    cases begins pipeline.state with
    | mk outcome after => cases outcome <;> rfl
  cases call with
  | beginUnbound => exact began _
  | beginFor context => exact began _
  | write items context => exact absurd rfl (unwritten items context)
  | commit counts fault =>
      rw [step]
      cases pipeline.current <;> rfl
  | commitWithComponentState counts fault states =>
      rw [step]
      cases pipeline.current <;> rfl
  | rollback =>
      rw [step]
      cases pipeline.current <;> rfl
  | inheritedProgress context => rfl
  | inheritedComponentState context => rfl

variable (hardCrash) in
/-- The failpoint of the target 0, in the terms of the wrapped counter. -/
theorem wrapsToZero_chunk (call : Call F) (other : JobState Transaction ρ σ) :
    wrapsToZero mode inner history (.chunk call) other =
      (injection 0 mode hardCrash).fires inner.chunk
        (history.begun % 4294967296) call other.pipeline := by
  have quiet (unwritten : ∀ items context, call ≠ .write items context) :
      (injection 0 mode hardCrash).fires inner.chunk
        (history.begun % 4294967296) call other.pipeline = false := by
    rw [Injection.fires, disarmed_silent unwritten, Bool.and_false]
  cases call with
  | write items context => rfl
  | _ => exact (quiet (fun _ _ impossible => by cases impossible)).symm

/-- A call of the pipeline, as the watch sees it. -/
theorem fires_chunk (follows : Follows mode hardCrash history state other)
    (call : Call F) :
    wrapsToZero mode inner history (.chunk call) other =
      (injection 0 mode hardCrash).fires inner.chunk
        state.pipeline.state.chunkOrdinal.toNat call
        (Failpoint.plain state.pipeline) := by
  have pipeline : Failpoint.plain state.pipeline = other.pipeline :=
    congrArg JobState.pipeline follows.plain
  rw [wrapsToZero_chunk hardCrash, follows.chunkOrdinal,
    UInt32.toNat_ofNat', pipeline]

/-- A record that is read, as the watch sees it. -/
theorem hits_read (follows : Follows mode hardCrash history state other)
    (context : R.ReadContext) :
    wrapsToZero mode inner history (.read context) other =
      FailingReader.hits { failAtRow := 0, hardCrash } inner.read context
        (state.reader, state.pipeline.state) := by
  have wraps : ((history.items + 1) % 18446744073709551616 == 0) =
      (state.reader.rowOrdinal + 1 == 0) := by
    apply Bool.eq_iff_iff.mpr
    rw [follows.rowOrdinal, beq_iff_eq, beq_iff_eq, ← UInt64.toNat_inj]
    rw [UInt64.toNat_add, UInt64.toNat_ofNat']
    change _ ↔ (history.items % 18446744073709551616 + 1) %
      18446744073709551616 = 0
    rw [Nat.mod_add_mod]
  rw [FailingReader.hits, Bool.and_comm, ← wraps, ← follows.plain]
  rfl

/-! ### One call -/

theorem fresh_follows (reader : ρ) (world : World σ) :
    Follows mode hardCrash { items := 0, begun := 0 }
      (JobState.fresh reader world)
      (⟨reader, ⟨none, world.inner⟩⟩ : JobState Transaction ρ σ) := by
  constructor
  · rfl
  · rfl
  · rfl
  · rfl
  · intro transaction impossible
    cases impossible

theorem counted_ofNat {rows : Rows ρ} {items : Nat}
    (counts : rows.rowOrdinal = UInt64.ofNat items) (item : Bool) :
    rows.counted item = UInt64.ofNat (items + item.toNat) := by
  unfold Rows.counted
  rw [counts]
  cases item with
  | true => exact (UInt64.ofNat_add items 1).symm
  | false => rfl

/-- The read of a record that is not the one at which the counter wraps. -/
theorem read_follows (follows : Follows mode hardCrash history state other)
    {context : R.ReadContext}
    (quiet : wrapsToZero mode inner history (.read context) other = false) :
    let faulted := (inner.launched none mode hardCrash).answer (.read context) state
    let plainly := inner.answer (.read context) other
    faulted.1 = plainly.1 ∧
      Follows mode hardCrash
        ((wrapWatch mode inner).next history (.read context) plainly.1)
        faulted.2 plainly.2 := by
  rw [hits_read follows] at quiet
  have passes := read_passes { failAtRow := 0, hardCrash } inner.read context
    (state.reader, state.pipeline.state) quiet
  have launchedRead : (inner.launched none mode hardCrash).read =
    FailingReader.read { failAtRow := 0, hardCrash } inner.read := rfl
  obtain ⟨same, rowOrdinal, chunkOrdinal, fired, armed⟩ := follows
  subst same
  simp only [Objects.answer, launchedRead, passes]
  constructor
  · rfl
  constructor
  · rfl
  · exact counted_ofNat rowOrdinal _
  · exact chunkOrdinal
  · exact fired
  · intro transaction present
    exact armed transaction present

theorem chunk_follows (follows : Follows mode hardCrash history state other)
    {call : Call F}
    (quiet : wrapsToZero mode inner history (.chunk call) other = false) :
    let faulted := (inner.launched none mode hardCrash).answer (.chunk call) state
    let plainly := inner.answer (.chunk call) other
    faulted.1 = plainly.1 ∧
      Follows mode hardCrash
        ((wrapWatch mode inner).next history (.chunk call) plainly.1)
        faulted.2 plainly.2 := by
  rw [fires_chunk follows] at quiet
  obtain ⟨same, rowOrdinal, chunkOrdinal, fired, armed⟩ := follows
  subst same
  obtain ⟨exactly, advances⟩ := step_exact
    (decorates 0 mode hardCrash inner.chunk) armed call
  obtain ⟨response, after, flag⟩ := exactly.passes quiet
  constructor
  · exact congrArg JobResponse.chunk response
  constructor
  · exact congrArg (JobState.mk _) after
  · exact rowOrdinal
  · refine advances.chunkOrdinal.trans ?_
    rw [chunkOrdinal]
    change _ = UInt32.ofNat (history.begun + call.isBegin.toNat)
    cases call.isBegin with
    | true => exact (UInt32.ofNat_add history.begun 1).symm
    | false => rfl
  · exact flag.trans fired
  · exact advances.armed

/-- A read changes neither the flag back nor the open transaction. -/
theorem read_spoiled (spoiled : Spoiled mode hardCrash state)
    (context : R.ReadContext) :
    Spoiled mode hardCrash
      ((inner.launched none mode hardCrash).answer (.read context) state).2 := by
  obtain ⟨fired, armed⟩ := spoiled
  have launchedRead : (inner.launched none mode hardCrash).read =
    FailingReader.read { failAtRow := 0, hardCrash } inner.read := rfl
  have kept : ∀ world : World σ, world.chunkOrdinal =
      state.pipeline.state.chunkOrdinal →
        Armed (injection 0 mode hardCrash) hardCrash
          ⟨state.pipeline.current, world⟩ := by
    intro world same transaction present
    have own := armed transaction present
    rw [own.2, Injection.hits, Injection.hits, same]
    exact ⟨own.1, rfl⟩
  simp only [Objects.answer, launchedRead]
  cases hits : FailingReader.hits { failAtRow := 0, hardCrash } inner.read
      context (state.reader, state.pipeline.state) with
  | true =>
      obtain ⟨flag, same⟩ := read_strikes _ _ _ _ hits
      exact ⟨flag, kept _ same⟩
  | false =>
      rw [read_passes _ _ _ _ hits]
      exact ⟨fired, kept _ rfl⟩

theorem chunk_spoiled (spoiled : Spoiled mode hardCrash state)
    (call : Call F) :
    Spoiled mode hardCrash
      ((inner.launched none mode hardCrash).answer (.chunk call) state).2 := by
  have holds := decorates 0 mode hardCrash inner.chunk
  constructor
  · exact (step_fired holds spoiled.armed call).mpr (Or.inl spoiled.fired)
  · exact (step_exact holds spoiled.armed call).2.armed

theorem loud_spoiled (follows : Follows mode hardCrash history state other)
    {call : JobCall F R}
    (loud : wrapsToZero mode inner history call other = true) :
    Spoiled mode hardCrash
      ((inner.launched none mode hardCrash).answer call state).2 := by
  cases call with
  | chunk call =>
      have holds := decorates 0 mode hardCrash inner.chunk
      rw [fires_chunk follows] at loud
      constructor
      · exact (step_fired holds follows.armed call).mpr (Or.inr loud)
      · exact (step_exact holds follows.armed call).2.armed
  | read context =>
      rw [hits_read follows] at loud
      obtain ⟨flag, same⟩ := read_strikes _ _ _ _ loud
      constructor
      · exact flag
      · intro transaction present
        have own := follows.armed transaction present
        rw [own.2, Injection.hits, Injection.hits]
        exact ⟨own.1, congrArg (fun ordinal : UInt32 =>
          _ && ordinal.toNat == _) same.symm⟩

/-- The decorated job under the watch of its own counters. -/
theorem launched_watches (mode : FailureMode) (hardCrash : Bool)
    (inner : Objects F R Transaction ρ σ) :
    Watches (wrapWatch mode inner) (inner.launched none mode hardCrash).answer
      inner.answer (Follows mode hardCrash) (Spoiled mode hardCrash) where
  clean := by
    intro history state other follows spoiled
    exact absurd spoiled.fired (Bool.eq_false_iff.mp follows.fired)
  quiet := by
    intro history call state other follows quiet
    cases call with
    | read context => exact read_follows follows quiet
    | chunk call => exact chunk_follows follows quiet
  loud := fun _ _ _ _ follows loud => loud_spoiled follows loud
  stays := by
    intro call state spoiled
    cases call with
    | read context => exact read_spoiled spoiled context
    | chunk call => exact chunk_spoiled spoiled call

end Launched

/-! ### Whole runs -/

/-- No call of the run meets a counter that is back at 0. -/
def neverAtZero (mode : FailureMode) (inner : Objects F R Transaction ρ σ)
    (calls : List (JobCall F R)) (start : JobState Transaction ρ σ) : Bool :=
  (wrapWatch mode inner).undisturbed JobResponse.halted inner.answer calls
    { items := 0, begun := 0 } start

/-- A run of the decorated objects that cannot be told from the plain one. -/
structure NeverFaulted (inner : Objects F R Transaction ρ σ)
    (mode : FailureMode) (hardCrash : Bool) (calls : List (JobCall F R))
    (reader : ρ) (world : World σ) : Prop where
  responses :
    ((inner.launched none mode hardCrash).run calls (.fresh reader world)).1 =
      (inner.run calls ⟨reader, ⟨none, world.inner⟩⟩).1
  plain :
    ((inner.launched none mode hardCrash).run calls
        (.fresh reader world)).2.plain =
      (inner.run calls ⟨reader, ⟨none, world.inner⟩⟩).2
  unfired :
    ((inner.launched none mode hardCrash).run calls
      (.fresh reader world)).2.pipeline.state.fired = false

/-- Without a chosen failpoint a run is faulted exactly when a counter is back
at 0. -/
theorem production_exact (inner : Objects F R Transaction ρ σ)
    (mode : FailureMode) (hardCrash : Bool) (calls : List (JobCall F R))
    (reader : ρ) (world : World σ) :
    NeverFaulted inner mode hardCrash calls reader world ↔
      neverAtZero mode inner calls ⟨reader, ⟨none, world.inner⟩⟩ = true := by
  have watches := launched_watches mode hardCrash inner
  have follows : Follows mode hardCrash { items := 0, begun := 0 }
      (JobState.fresh reader world)
      (⟨reader, ⟨none, world.inner⟩⟩ : JobState Transaction ρ σ) :=
    fresh_follows reader world
  constructor
  · intro unfaulted
    apply (watches.spoiled_iff follows).mp
    intro spoiled
    exact absurd spoiled.fired (Bool.eq_false_iff.mp unfaulted.unfired)
  · intro never
    obtain ⟨responses, last, ends⟩ := watches.alike follows never
    exact ⟨responses, ends.plain, ends.fired⟩

/-! ### A run that is long enough -/

/-- Readers of records without data. -/
def bareReading : Reading :=
  { Record := Unit
    Other := Unit
    ReadContext := Unit
    ReaderError := String
    userComponent := "user component" }

/-- An input that never ends, before objects that count their commits. -/
def countingObjects : Objects bareFramework bareReading Unit Unit Nat :=
  { read := fun _ => pure (.item ())
    chunk := countingComponents }

abbrev SimpleCall : Type := JobCall bareFramework bareReading

/-- A chunk of one record up to its write. -/
def chunkStart : List SimpleCall :=
  [.read (), .chunk (.beginFor ()), .chunk (.write [()] ())]

def chunkCall : List SimpleCall :=
  chunkStart ++ [.chunk (.commitWithComponentState () () [])]

/-- That many chunks of one record. -/
def chunkCalls : Nat → List SimpleCall
  | 0 => []
  | count + 1 => chunkCall ++ chunkCalls count

theorem undisturbed_after {mode : FailureMode} {count : Nat}
    {later : List SimpleCall} {history : History} {committed : Nat}
    (silent : (wrapWatch mode countingObjects).undisturbed
      JobResponse.halted countingObjects.answer (chunkCalls count ++ later)
      history ⟨(), ⟨none, committed⟩⟩ = true) :
    (wrapWatch mode countingObjects).undisturbed JobResponse.halted
      countingObjects.answer later
      { items := history.items + count, begun := history.begun + count }
      ⟨(), ⟨none, committed + count⟩⟩ = true := by
  induction count generalizing history committed with
  | zero => exact silent
  | succ count ih =>
      obtain ⟨_, afterRead⟩ := Dialogue.undisturbed_cons.mp silent
      obtain ⟨_, afterBegin⟩ := Dialogue.undisturbed_cons.mp
        (afterRead.resolve_left Bool.false_ne_true)
      obtain ⟨_, afterWrite⟩ := Dialogue.undisturbed_cons.mp
        (afterBegin.resolve_left Bool.false_ne_true)
      obtain ⟨_, afterCommit⟩ := Dialogue.undisturbed_cons.mp
        (afterWrite.resolve_left Bool.false_ne_true)
      have later := ih (afterCommit.resolve_left Bool.false_ne_true)
      have items : history.items + 1 + count = history.items + (count + 1) := by
        omega
      have begun : history.begun + 1 + count = history.begun + (count + 1) := by
        omega
      have commits : committed + 1 + count = committed + (count + 1) := by
        omega
      rw [← items, ← begun, ← commits]
      exact later

/-- The write in the transaction at which the counter is back at 0. -/
theorem disturbed_write {count : Nat}
    (wraps : (count + 1) % 4294967296 = 0) :
    (wrapWatch .beforeWrite countingObjects).undisturbed JobResponse.halted
      countingObjects.answer (chunkCalls count ++ chunkStart)
      { items := 0, begun := 0 } ⟨(), ⟨none, 0⟩⟩ = false := by
  apply Bool.eq_false_iff.mpr
  intro silent
  obtain ⟨_, afterRead⟩ := Dialogue.undisturbed_cons.mp
    (undisturbed_after silent)
  obtain ⟨_, afterBegin⟩ := Dialogue.undisturbed_cons.mp
    (afterRead.resolve_left Bool.false_ne_true)
  obtain ⟨unfired, _⟩ := Dialogue.undisturbed_cons.mp
    (afterBegin.resolve_left Bool.false_ne_true)
  have fires : ((0 + count + 1) % 4294967296 == 0) = true := by
    rw [Nat.zero_add, wraps]
    rfl
  change ((0 + count + 1) % 4294967296 == 0 && true) = false at unfired
  rw [fires] at unfired
  cases unfired

/-- A process before its run. -/
def newWorld : World Nat :=
  { inner := 0
    chunkOrdinal := 0
    fired := false
    processId := 1
    markerWritable := false
    marker := none }

theorem fired_at {count : Nat} (wraps : (count + 1) % 4294967296 = 0) :
    ((countingObjects.launched none .beforeWrite true).run
      (chunkCalls count ++ chunkStart)
      (.fresh () newWorld)).2.pipeline.state.fired = true := by
  have watches := launched_watches .beforeWrite true countingObjects
  have follows : Follows .beforeWrite true { items := 0, begun := 0 }
      (JobState.fresh () newWorld)
      (⟨(), ⟨none, 0⟩⟩ : JobState Unit Unit Nat) :=
    fresh_follows () newWorld
  exact (watches.disturbed follows (disturbed_write wraps)).fired

/-- The 2^32nd chunk of a run without a chosen failpoint is never written. -/
theorem production_faulted :
    ((countingObjects.launched none .beforeWrite true).run
      (chunkCalls 4294967295 ++ chunkStart)
      (.fresh () newWorld)).2.pipeline.state.fired = true :=
  @fired_at 4294967295 rfl

end Failpoint.CsvPostgres
