/-
The end of a sampled iteration: the terminal boundary, the stop and the wait
for the sampler, for every way in which the sampler and the iteration go.
-/

import OxideWorkloads.Endurance.SamplingSpec

namespace Endurance

open Foundation
open Foundation.CrashRun
open Foundation.Checks
open Foundation.LineLog (Bytes)

/-! ### A sampler beside an iteration -/

/-- The last boundary ever enqueued is a terminal one. -/
def EndsTerminal (history : List SamplerEvent) : Prop :=
  ∃ earlier boundary, enqueuedBoundaries history = earlier ++ [boundary] ∧
    (boundary.kind = "terminal-success" ∨ boundary.kind = "terminal-failure")

/-- While the iteration runs: only a failure stops the loop.  In a clean run
nothing has failed unless the loop knows it; in an honest one the loop waits
for its turn. -/
structure Watched (honest clean : Prop) (before : Bytes) (sampler : Sampler)
    (samples : Option Bytes) : Prop where
  accounts : Sampler.Accounts before sampler samples
  running : sampler.state.stop = true → sampler.state.failure.isSome
  untroubled : clean → sampler.phase.Working → ¬HasFailed sampler.history
  waiting : honest →
    sampler.phase = .drain ∧ sampler.state.failure = none

/-- Once the loop is told to stop: it has failed, or the last boundary is a
terminal one. -/
structure Settled (clean : Prop) (before : Bytes) (sampler : Sampler)
    (samples : Option Bytes) : Prop where
  accounts : Sampler.Accounts before sampler samples
  closed : sampler.state.failure.isSome ∨ EndsTerminal sampler.history
  untroubled : clean → sampler.phase.Working → ¬HasFailed sampler.history

/-- At any time: a loop that has ended well has written everything, and last
the terminal boundary. -/
structure Balanced (before : Bytes) (sampler : Sampler)
    (samples : Option Bytes) : Prop where
  accounts : Sampler.Accounts before sampler samples
  ended : ∀ {count}, sampler.phase = .finished (.ok count) →
    EndsTerminal sampler.history

section Sampler

variable {honest clean : Prop} {before : Bytes} {sampler : Sampler}
variable {samples : Option Bytes}

theorem watched_spawn (honest clean : Prop) (context : SamplerContext)
    (samples : Option Bytes) :
    Watched honest clean (samples.getD []) (.spawn context) samples where
  accounts := Sampler.accounts_spawn context samples
  running := by simp [Sampler.spawn, SamplerState.default]
  untroubled := by simp [HasFailed, Sampler.spawn]
  waiting := fun _ => ⟨rfl, rfl⟩

theorem Watched.stop_eq (watched : Watched honest clean before sampler samples)
    (isHonest : honest) : sampler.state.stop = false := by
  cases stop : sampler.state.stop with
  | false => rfl
  | true =>
      have failed := watched.running stop
      rw [(watched.waiting isHonest).2] at failed
      cases failed

theorem Watched.balanced
    (watched : Watched honest clean before sampler samples) :
    Balanced before sampler samples := by
  refine ⟨watched.accounts, fun {count} finished => ?_⟩
  have stopped := (watched.accounts.finished finished).2.2
  have working := watched.accounts.failure (watched.running stopped)
  rw [finished] at working
  exact absurd trivial working

theorem Settled.balanced (settled : Settled clean before sampler samples) :
    Balanced before sampler samples := by
  refine ⟨settled.accounts, fun {count} finished => ?_⟩
  rcases settled.closed with failed | ends
  · have working := settled.accounts.failure failed
    rw [finished] at working
    exact absurd trivial working
  · exact ends

theorem Watched.run (watched : Watched honest clean before sampler samples)
    (inputs : List SamplerInput) (none : honest → inputs = []) :
    Watched honest clean before (sampler.run inputs samples).1
      (sampler.run inputs samples).2 := by
  have advanced : Sampler.Advanced sampler (sampler.run inputs samples).1 :=
    Sampler.advanced_run inputs
  refine ⟨watched.accounts.run inputs, fun stopped => ?_, fun isClean =>
    advanced.untroubled (watched.untroubled isClean), fun isHonest => ?_⟩
  · rcases advanced.stop stopped with earlier | failed
    · exact advanced.failure (watched.running earlier)
    · exact failed
  · rw [none isHonest]
    exact watched.waiting isHonest

theorem EndsTerminal.run {inputs : List SamplerInput}
    (ends : EndsTerminal sampler.history) :
    EndsTerminal (sampler.run inputs samples).1.history := by
  obtain ⟨earlier, boundary, same, kind⟩ := ends
  have advanced : Sampler.Advanced sampler (sampler.run inputs samples).1 :=
    Sampler.advanced_run inputs
  exact ⟨earlier, boundary, advanced.enqueued.trans same, kind⟩

theorem Settled.run (settled : Settled clean before sampler samples)
    (inputs : List SamplerInput) :
    Settled clean before (sampler.run inputs samples).1
      (sampler.run inputs samples).2 := by
  have advanced : Sampler.Advanced sampler (sampler.run inputs samples).1 :=
    Sampler.advanced_run inputs
  exact ⟨settled.accounts.run inputs,
    settled.closed.imp advanced.failure EndsTerminal.run, fun isClean =>
      advanced.untroubled (settled.untroubled isClean)⟩

theorem Watched.retarget
    (watched : Watched honest clean before sampler samples)
    (target : Option ProcessTarget) :
    Watched honest clean before
      { sampler with state := { sampler.state with active := target } }
      samples where
  accounts :=
    { watched.accounts with
      settled := watched.accounts.settled
      bytes := watched.accounts.bytes
      snapshot := watched.accounts.snapshot
      finished := watched.accounts.finished }
  running := watched.running
  untroubled := watched.untroubled
  waiting := watched.waiting

theorem Watched.submit
    (watched : Watched honest clean before sampler samples)
    (healthy : sampler.state.failure = none) {boundary : BoundaryRequest}
    (kind : boundary.kind ≠ "periodic") :
    Watched honest clean before (sampler.submit boundary) samples where
  accounts := by
    refine watched.accounts.submit ?_ kind
    cases stop : sampler.state.stop with
    | false => rfl
    | true =>
        have failed := watched.running stop
        rw [healthy] at failed
        cases failed
  running := watched.running
  untroubled := fun isClean working => by
    have same : (sampler.submit boundary).history =
        sampler.history ++ [.enqueued boundary] := rfl
    rw [same, hasFailed_append]
    simpa using watched.untroubled isClean working
  waiting := watched.waiting

/-- A failed probe leaves the accounts as they are. -/
theorem Watched.note (watched : Watched honest clean before sampler samples)
    (error : String) :
    Watched False False before
      { sampler with history := sampler.history ++ [.failed error] }
      samples where
  accounts :=
    { written := by simpa [SamplerEvent.sample?]
        using watched.accounts.written
      kinds := by simpa [SamplerEvent.boundary?]
        using watched.accounts.kinds
      settled := fun working => by
        simpa [SamplerEvent.boundary?, SamplerEvent.sample?]
          using watched.accounts.settled working
      bytes := fun working => by
        simpa [SamplerEvent.sample?] using watched.accounts.bytes working
      started := fun started => (watched.accounts.started started).append _
      snapshot := fun same => (watched.accounts.snapshot same).append _
      periodic := watched.accounts.periodic.append (by simp)
      failure := watched.accounts.failure
      finished := watched.accounts.finished }
  running := watched.running
  untroubled := False.elim
  waiting := False.elim

theorem Watched.weaken
    (watched : Watched honest clean before sampler samples) :
    Watched False False before sampler samples :=
  ⟨watched.accounts, watched.running, False.elim, False.elim⟩

/-- What the observer does to a sampler that is watched. -/
theorem watched_laws (honest : Prop) (before : Bytes) :
    SamplerLaws honest (Watched honest True before)
      (Watched False False before) where
  weaken := Watched.weaken
  advance := fun watched none => watched.run _ none
  running := fun isHonest _ _ watched => watched.stop_eq isHonest
  healthy := fun isHonest _ _ watched => (watched.waiting isHonest).2
  retarget := Watched.retarget
  submit := fun watched healthy _ kind => watched.submit healthy kind
  noted := fun _ _ _ watched error => watched.note error

end Sampler

/-! ### Settling an iteration -/

/-- A statement about a directory that does not look at the sample log. -/
def SampleBlind (D : CampaignDir → Prop) : Prop :=
  ∀ dir samples, D dir → D { dir with samples := samples }

/-- Between two effects: the directory, the sampler beside it, and in an
honest run the answers. -/
def Stands (D : CampaignDir → Prop) (honest : Prop) (beside : Beside)
    (world : World) : Prop :=
  D world.disk ∧ beside world.sampler world.disk.samples ∧
    (honest → world.supply = (fun _ => faultlessAnswer))

/-- A dishonest run that may stop here. -/
def Halts (D : CampaignDir → Prop) (honest : Prop) (beside : Beside)
    (world : World) : Prop :=
  ¬honest ∧ D world.disk ∧ beside world.sampler world.disk.samples

section Settle

variable {D : CampaignDir → Prop} {honest clean : Prop} {before : Bytes}
variable {world : World} {α : Type}

theorem Stands.halts {beside left : Beside}
    (weaker : ∀ {sampler samples}, beside sampler samples →
      left sampler samples)
    (stands : Stands D honest beside world) (dishonest : ¬honest) :
    Halts D honest left world :=
  ⟨dishonest, stands.1, weaker stands.2.1⟩

theorem Stands.mono {beside other : Beside}
    (weaker : ∀ {sampler samples}, beside sampler samples →
      other sampler samples)
    (stands : Stands D honest beside world) : Stands D honest other world :=
  ⟨stands.1, weaker stands.2.1, stands.2.2⟩

/-- The sampler takes some steps before the program goes on. -/
theorem Stands.yielded (blind : SampleBlind D) {beside other : Beside}
    (advances : ∀ {sampler samples inputs},
      (honest → inputs = faultlessAnswer.schedule sampler) →
        beside sampler samples →
          other (sampler.run inputs samples).1
            (sampler.run inputs samples).2)
    (stands : Stands D honest beside world) :
    Stands D honest other world.yielded := by
  refine ⟨blind _ _ stands.1, advances (fun isHonest => ?_) stands.2.1,
    fun isHonest => ?_⟩
  · rw [stands.2.2 isHonest]
    rfl
  · simp only [World.yielded, World.advance, World.consulted,
      stands.2.2 isHonest]

theorem Stands.not_killed {beside : Beside}
    (stands : Stands D honest beside world)
    (killed : (world.supply 0).killed = true) : ¬honest := by
  intro isHonest
  rw [stands.2.2 isHonest] at killed
  cases killed

/-- The loop has failed, or the last boundary is a terminal one. -/
def Closed (sampler : Sampler) : Prop :=
  sampler.state.failure.isSome ∨ EndsTerminal sampler.history

theorem Watched.enqueue {sampler : Sampler} {samples : Option Bytes}
    (watched : Watched honest clean before sampler samples)
    (healthy : sampler.state.failure = none) {boundary : BoundaryRequest}
    (terminal : boundary.kind = "terminal-success" ∨
      boundary.kind = "terminal-failure") :
    Watched honest clean before (sampler.enqueue boundary) samples ∧
      Closed (sampler.enqueue boundary) := by
  have quiet : boundary.kind ≠ "sampler-start" ∧
      boundary.kind ≠ "periodic" := by
    rcases terminal with same | same <;> rw [same] <;> decide
  have submitted := watched.submit healthy quiet.2
  rw [submit_eq_enqueue quiet.1] at submitted
  refine ⟨submitted, Or.inr
    ⟨enqueuedBoundaries sampler.history, boundary, ?_, terminal⟩⟩
  simp [Sampler.enqueue, SamplerEvent.boundary?]

theorem triple_enqueueTerminal (blind : SampleBlind D) (success : Bool) :
    Triple (Stands D honest (Watched honest clean before))
      (attempt (enqueueTerminal success))
      (fun terminal world =>
        Stands D honest (fun sampler samples =>
          Watched honest clean before sampler samples ∧ Closed sampler)
          world ∧ (honest → terminal = .ok ()))
      (Halts D honest (Balanced before)) := by
  intro world stands
  have yielded : Stands D honest (Watched honest clean before)
      world.yielded := stands.yielded blind
    (fun none watched => watched.run _ (fun isHonest => by
      rw [none isHonest]
      simp [faultlessAnswer, watched.stop_eq isHonest]))
  simp only [enqueueTerminal, lockWorking, lockState, wp_attempt, wp_bind,
    wp_yieldToSampler, wp_state, wp_ofExcept, wp_pure]
  by_cases killed : (world.supply 0).killed = true
  · rw [if_pos killed]
    exact yielded.halts Watched.balanced (stands.not_killed killed)
  · rw [if_neg killed]
    cases failed : world.yielded.sampler.state.failure with
    | some failure =>
        simp only [failIfSamplerFailed, failed]
        refine ⟨⟨yielded.1, ⟨yielded.2.1, Or.inl (by rw [failed]; rfl)⟩,
          yielded.2.2⟩, fun isHonest => ?_⟩
        have healthy := (yielded.2.1.waiting isHonest).2
        rw [failed] at healthy
        cases healthy
    | none =>
        simp only [failIfSamplerFailed, failed, changeSampler, wp_modify]
        refine ⟨⟨yielded.1, yielded.2.1.enqueue failed ?_, yielded.2.2⟩,
          fun _ => trivial⟩
        cases success
        · exact Or.inr rfl
        · exact Or.inl rfl

/-- Told to stop.  In an honest run the loop has not moved since. -/
def Stopped (honest clean : Prop) (before : Bytes) : Beside :=
  fun sampler samples => Settled clean before sampler samples ∧
    (honest → sampler.phase = .drain ∧ sampler.state.stop = true)

theorem triple_stopSampler (blind : SampleBlind D) :
    Triple
      (Stands D honest (fun sampler samples =>
        Watched honest clean before sampler samples ∧ Closed sampler))
      stopSampler
      (fun _ => Stands D honest (Stopped honest clean before))
      (Halts D honest (Balanced before)) := by
  intro world stands
  have yielded : Stands D honest (fun sampler samples =>
      Watched honest clean before sampler samples ∧ Closed sampler)
      world.yielded := stands.yielded blind
    (fun none reached => ⟨reached.1.run _ (fun isHonest => by
      rw [none isHonest]
      simp [faultlessAnswer, reached.1.stop_eq isHonest]),
      reached.2.imp (Sampler.advanced_run _).failure EndsTerminal.run⟩)
  simp only [stopSampler, lockState, wp_bind, wp_yieldToSampler, wp_state,
    wp_pure, changeSampler, wp_modify]
  by_cases killed : (world.supply 0).killed = true
  · rw [if_pos killed]
    exact yielded.halts (fun reached => Watched.balanced reached.1)
      (stands.not_killed killed)
  · rw [if_neg killed]
    obtain ⟨watched, closed⟩ := yielded.2.1
    have accounts := watched.accounts
    exact ⟨yielded.1, ⟨⟨{ accounts with
        settled := accounts.settled
        bytes := accounts.bytes
        snapshot := accounts.snapshot
        finished := fun same =>
          ⟨(accounts.finished same).1, (accounts.finished same).2.1, rfl⟩ },
      closed, watched.untroubled⟩,
      fun isHonest => ⟨(watched.waiting isHonest).1, rfl⟩⟩, yielded.2.2⟩

theorem triple_joinSampler (blind : SampleBlind D) :
    Triple (Stands D honest (Stopped honest clean before))
      (attempt joinSampler)
      (fun joined world =>
        Stands D honest (Settled clean before) world ∧
          (∀ count, joined = .ok count →
            world.sampler.phase = .finished (.ok count)) ∧
          (honest → ∃ count, joined = .ok count))
      (Halts D honest (Balanced before)) := by
  intro world stands
  have yielded : Stands D honest (fun sampler samples =>
      Settled clean before sampler samples ∧
        (honest → ∃ count, sampler.phase = .finished (.ok count)))
      world.yielded := stands.yielded blind
    (fun quiet reached => ⟨reached.1.run _, fun isHonest => by
      obtain ⟨phase, stop⟩ := reached.2 isHonest
      rw [quiet isHonest]
      simp only [faultlessAnswer, stop, if_true]
      exact ⟨_, Sampler.run_quiet phase stop⟩⟩)
  simp only [joinSampler, wp_attempt, wp_bind, wp_yieldToSampler]
  by_cases killed : (world.supply 0).killed = true
  · rw [if_pos killed]
    exact yielded.halts (fun reached => reached.1.balanced)
      (stands.not_killed killed)
  · rw [if_neg killed]
    have settled := yielded.mono (fun reached => reached.1)
    cases fault : (world.supply 0).fault with
    | some error =>
        refine ⟨settled, by simp, fun isHonest => ?_⟩
        rw [stands.2.2 isHonest] at fault
        cases fault
    | none =>
        simp only [wp_bind, wp_state]
        cases phase : world.yielded.sampler.phase with
        | finished result =>
            cases result with
            | ok count =>
                exact ⟨settled, fun other same => by cases same; exact phase,
                  fun _ => ⟨count, rfl⟩⟩
            | error error =>
                refine ⟨settled, by simp, fun isHonest => ?_⟩
                obtain ⟨count, same⟩ := yielded.2.1.2 isHonest
                rw [phase] at same
                cases same
        | _ =>
            refine settled.halts Settled.balanced (fun isHonest => ?_)
            obtain ⟨count, same⟩ := yielded.2.1.2 isHonest
            rw [phase] at same
            cases same

theorem selectOutcome_ok {execution : Except String α}
    {terminal : Except String Unit} {joined : Except String Nat} {result : α}
    {count : Nat} :
    selectOutcome execution terminal joined = .ok (result, count) ↔
      execution = .ok result ∧ terminal = .ok () ∧ joined = .ok count := by
  cases terminal <;> cases joined <;> cases execution <;>
    simp [selectOutcome]

/-- An iteration that counts as executed was executed, and its sampler ended
well; in an honest run every execution counts. -/
theorem triple_settle (blind : SampleBlind D) (execution : Except String α) :
    Triple (Stands D honest (Watched honest clean before))
      (settleIteration execution)
      (fun outcome world =>
        Stands D honest (Settled clean before) world ∧
          (∀ result count, outcome = .ok (result, count) →
            execution = .ok result ∧
              world.sampler.phase = .finished (.ok count)) ∧
          (honest → ∀ result, execution = .ok result →
            ∃ count, outcome = .ok (result, count)))
      (Halts D honest (Balanced before)) := by
  refine triple_bind (triple_enqueueTerminal blind _) (fun terminal => ?_)
  refine triple_seq (fun _ world =>
      Stands D honest (Stopped honest clean before) world ∧
        (honest → terminal = .ok ()))
    (fun world reached => wp_mono (triple_stopSampler blind world reached.1)
      (fun _ _ stopped => ⟨stopped, reached.2⟩) (fun _ _ => id)
      (fun _ => id)) (fun _ => ?_)
  refine triple_seq (fun joined world =>
      (Stands D honest (Settled clean before) world ∧
        (∀ count, joined = .ok count →
          world.sampler.phase = .finished (.ok count)) ∧
        (honest → ∃ count, joined = .ok count)) ∧
      (honest → terminal = .ok ()))
    (fun world reached => wp_mono (triple_joinSampler blind world reached.1)
      (fun _ _ joined => ⟨joined, reached.2⟩) (fun _ _ => id)
      (fun _ => id)) (fun joined => ?_)
  refine triple_pure (fun world reached => ?_)
  obtain ⟨⟨settled, finished, joins⟩, enqueued⟩ := reached
  refine ⟨settled, fun result count same => ?_,
    fun isHonest result executed => ?_⟩
  · obtain ⟨executed, _, ended⟩ := selectOutcome_ok.mp same
    exact ⟨executed, finished count ended⟩
  · obtain ⟨count, ended⟩ := joins isHonest
    exact ⟨count, selectOutcome_ok.mpr ⟨executed, enqueued isHonest, ended⟩⟩

end Settle

end Endurance
