/-
The observer of a sampled iteration, for every regime that allows the moves of
the sampler, and the two regimes that the development uses: one watches the
event log, the other the accounts of the sampler.
-/

import OxideWorkloads.Endurance.StoreSpec

namespace Endurance

open Foundation
open Foundation.CrashRun
open Foundation.Checks
open Foundation.LineLog (Bytes piece newline Appended)
open Foundation.JsonGrammar (objectFraming)

/-! ### The observer -/

/-- A regime that survives what the sampler and its observer do. -/
structure SamplingLaws (regime : Regime) : Prop where
  advance : ∀ {world inputs}, regime.holds world →
    (regime.honest → inputs = []) → regime.holds (world.advance inputs)
  running : regime.honest → ∀ {world}, regime.holds world →
    world.sampler.state.stop = false
  healthy : regime.honest → ∀ {world}, regime.holds world →
    world.sampler.state.failure = none
  retarget : ∀ {world}, regime.holds world → ∀ target,
    regime.holds { world with
      sampler := { world.sampler with
        state := { world.sampler.state with active := target } } }
  submit : ∀ {world}, regime.holds world →
    world.sampler.state.failure = none → ∀ boundary,
      boundary.kind ≠ "periodic" →
        regime.holds { world with sampler := world.sampler.submit boundary }
  noted : ¬regime.honest → ∀ {world}, regime.holds world → ∀ error,
    regime.broken { world with
      sampler := { world.sampler with
        history := world.sampler.history ++ [.failed error] } }

section Observer

variable {regime : Regime}

theorem runs_yieldToSampler (laws : SamplingLaws regime) :
    regime.Runs yieldToSampler
      (fun answer => regime.honest → answer = faultlessAnswer) := by
  intro world holds
  have known := fun honest => regime.answers honest holds
  have consulted := regime.keeps holds
  have advanced : regime.holds world.yielded :=
    laws.advance consulted (fun honest => by
      rw [known honest]
      simp [faultlessAnswer, laws.running honest holds])
  rw [wp_yieldToSampler]
  split_ifs with killed
  · refine regime.stops (fun honest => ?_) advanced
    rw [known honest] at killed
    cases killed
  · exact ⟨advanced, known⟩

theorem triple_lockState (laws : SamplingLaws regime) :
    Triple regime.holds lockState
      (fun state world => regime.holds world ∧ world.sampler.state = state)
      regime.broken := by
  refine triple_bind (runs_yieldToSampler laws) (fun _ => ?_)
  refine triple_seq (fun current world => regime.holds world ∧ current = world)
    (triple_state (fun _ reached => ⟨reached.1, rfl⟩)) (fun current => ?_)
  exact triple_pure (fun world reached => ⟨reached.1, by rw [reached.2]⟩)

/-- Holding the lock, the sampler has not failed. -/
theorem triple_lockWorking (laws : SamplingLaws regime) :
    Triple regime.holds lockWorking
      (fun state world => regime.holds world ∧
        world.sampler.state = state ∧ state.failure = none)
      regime.broken := by
  refine triple_bind (triple_lockState laws) (fun state => ?_)
  refine triple_seq (fun _ world => regime.holds world ∧
      world.sampler.state = state ∧ state.failure = none)
    (triple_ofExcept (fun _ passed world reached => ?_)
      (fun failure stopped world reached => ?_))
    (fun _ => triple_pure (fun _ => id))
  · refine ⟨reached.1, reached.2, ?_⟩
    unfold failIfSamplerFailed at passed
    split at passed
    · cases passed
    · assumption
  · refine regime.stops (fun honest => ?_) reached.1
    have healthy := laws.healthy honest reached.1
    rw [reached.2] at healthy
    rw [failIfSamplerFailed, healthy] at stopped
    cases stopped

theorem runs_lockWorking (laws : SamplingLaws regime) :
    regime.Runs lockWorking (fun _ => True) :=
  triple_consequence (triple_lockWorking laws) (fun _ => id)
    (fun _ _ reached => ⟨reached.1, trivial⟩) (fun _ => id)

/-- A change made under the lock of a sampler that has not failed. -/
theorem runs_locked (laws : SamplingLaws regime) {update : Sampler → Sampler}
    (allows : ∀ {world}, regime.holds world →
      world.sampler.state.failure = none →
        regime.holds { world with sampler := update world.sampler }) :
    regime.Runs
      (do
        let _ ← lockWorking
        changeSampler update) (fun _ => True) :=
  triple_bind (triple_lockWorking laws) (fun _ =>
    triple_modify (fun _ reached =>
      ⟨allows reached.1 (by rw [reached.2.1]; exact reached.2.2), trivial⟩))

theorem runs_probeProcess (laws : SamplingLaws regime)
    (target : ProcessTarget) :
    regime.Runs (probeProcess target) (fun _ => True) := by
  refine Regime.runs_bind Regime.runs_draw (fun answer known => ?_)
  cases probed : answer.probe target with
  | ok process => exact Regime.runs_pure trivial
  | error error =>
      have dishonest : ¬regime.honest := by
        intro honest
        rw [known honest] at probed
        cases probed
      intro world holds
      exact laws.noted dishonest holds error

theorem submit_eq_enqueue {sampler : Sampler} {boundary : BoundaryRequest}
    (kind : boundary.kind ≠ "sampler-start") :
    sampler.submit boundary = sampler.enqueue boundary := by
  simp [Sampler.submit, kind]

theorem runs_setProcess (laws : SamplingLaws regime) (role : String)
    {detail : Json} {pid : UInt32}
    (named : (detail.get "pid").bind Json.asU64 = some pid.toNat) :
    regime.Runs (setProcess role detail) (fun _ => True) := by
  have small : pid.toNat ≤ u32Max := by
    have below := pid.toNat_lt
    simp only [u32Max]
    omega
  unfold setProcess
  rw [named]
  refine Regime.runs_bind (P := fun number => number = pid.toNat)
    (Regime.runs_pure rfl) ?_
  rintro number rfl
  refine Regime.runs_bind (P := fun _ => True)
    (Regime.runs_check (fun _ => trivial)
      (fun _ => ensure_eq_ok.mpr small)) (fun _ _ => ?_)
  refine Regime.runs_bind (runs_probeProcess laws _) (fun process _ => ?_)
  refine runs_locked laws (fun {world} holds healthy => ?_)
  have submitted := laws.submit
    (laws.retarget holds (some
      { pid := UInt32.ofNat pid.toNat
        role := role })) healthy
    { kind := "process-role-start", process := some process } (by simp)
  rwa [submit_eq_enqueue (by simp)] at submitted

theorem runs_enqueueBoundary (laws : SamplingLaws regime) {kind : String}
    (named : kind ≠ "periodic") :
    regime.Runs (enqueueBoundary kind) (fun _ => True) :=
  runs_locked laws (fun holds healthy => laws.submit holds healthy _ named)

theorem runs_enqueueCurrentBoundary (laws : SamplingLaws regime)
    {kind : String} (named : kind ≠ "periodic")
    (notStart : kind ≠ "sampler-start") :
    regime.Runs (enqueueCurrentBoundary kind) (fun _ => True) := by
  refine Regime.runs_bind (runs_lockWorking laws) (fun state _ => ?_)
  refine Regime.runs_bind (P := fun _ => True) ?_ (fun process _ => ?_)
  · cases state.active with
    | none => exact Regime.runs_pure trivial
    | some target =>
        exact Regime.runs_bind (runs_probeProcess laws target)
          (fun _ _ => Regime.runs_pure trivial)
  · refine runs_locked laws (fun holds healthy => ?_)
    have submitted := laws.submit holds healthy
      { kind := kind, process := process } named
    rwa [submit_eq_enqueue notStart] at submitted

theorem samplingAction_kind {workload phase kind : String}
    (action : samplingAction workload phase = .boundary kind ∨
      samplingAction workload phase = .current kind) :
    kind ≠ "periodic" ∧
      (samplingAction workload phase = .current kind →
        kind ≠ "sampler-start") := by
  unfold samplingAction at action ⊢
  split at action <;>
    rcases action with action | action <;> cases action <;>
      exact ⟨by decide, by simp⟩

/-- The sampling observer keeps every regime that allows its moves. -/
theorem observes_samplingRecord (laws : SamplingLaws regime)
    (role : String) : Observes regime (samplingRecord role) := by
  intro phase detail reported
  refine Regime.runs_bind (runs_lockWorking laws) (fun _ _ => ?_)
  cases action : samplingAction role phase with
  | boundary kind =>
      exact runs_enqueueBoundary laws
        (samplingAction_kind (Or.inl action)).1
  | process role =>
      obtain ⟨pid, named⟩ := reported.pid _ _ action
      exact runs_setProcess laws role named
  | current kind =>
      have named := samplingAction_kind (Or.inr action)
      exact runs_enqueueCurrentBoundary laws named.1 (named.2 action)
  | clear => exact runs_locked laws (fun holds _ => laws.retarget holds none)
  | nothing => exact Regime.runs_pure trivial

end Observer

/-! ### Recording an iteration -/

section Recording

variable {honest : Prop} {kept left : Beside} {campaignId : String}
variable {sequence : Nat} {dir : CampaignDir}

/-- What is kept about the sampler while an iteration is recorded, and what is
left of it when the recording stops early. -/
structure SamplerLaws (honest : Prop) (kept left : Beside) : Prop where
  weaken : ∀ {sampler samples}, kept sampler samples → left sampler samples
  advance : ∀ {sampler samples inputs}, kept sampler samples →
    (honest → inputs = []) →
      kept (sampler.run inputs samples).1 (sampler.run inputs samples).2
  running : honest → ∀ {sampler samples}, kept sampler samples →
    sampler.state.stop = false
  healthy : honest → ∀ {sampler samples}, kept sampler samples →
    sampler.state.failure = none
  retarget : ∀ {sampler samples}, kept sampler samples → ∀ target,
    kept { sampler with state := { sampler.state with active := target } }
      samples
  submit : ∀ {sampler samples}, kept sampler samples →
    sampler.state.failure = none → ∀ boundary,
      boundary.kind ≠ "periodic" → kept (sampler.submit boundary) samples
  noted : ¬honest → ∀ {sampler samples}, kept sampler samples → ∀ error,
    left { sampler with history := sampler.history ++ [.failed error] } samples

/-- An event that does not end its iteration. -/
def QuietEvent (campaignId : String) (sequence : Nat) (text : Bytes) : Prop :=
  ∃ phase, phase ≠ "" ∧ phase ≠ terminalSuccessPhase ∧
    phase ≠ terminalFailurePhase ∧ IsEvent campaignId sequence phase text

/-- Whole lines at the end of the event log. -/
def withEvents (texts : List Bytes) (dir : CampaignDir) : CampaignDir :=
  appendEvents (texts.flatMap (fun text => text ++ [newline])) dir

theorem withEvents_append (texts : List Bytes) (text : Bytes)
    (dir : CampaignDir) :
    appendEvents (text ++ [newline]) (withEvents texts dir) =
      withEvents (texts ++ [text]) dir := by
  simp [withEvents, appendEvents]

/-- The event log after a recording that was interrupted anywhere. -/
def Torn (campaignId : String) (sequence : Nat) (dir after : CampaignDir) :
    Prop :=
  ∃ log, Appended objectFraming (QuietEvent campaignId sequence)
    (dir.events.getD []) log ∧ after = { dir with events := some log }

theorem QuietEvent.record {text : Bytes}
    (quiet : QuietEvent campaignId sequence text)
    (bounded : sequence ≤ u64Max) : objectFraming.record text := by
  obtain ⟨_, _, _, _, isEvent⟩ := quiet
  exact isEvent.record bounded

theorem torn_withEvents {texts : List Bytes}
    (quiet : ∀ text ∈ texts, QuietEvent campaignId sequence text)
    (bounded : sequence ≤ u64Max) :
    Torn campaignId sequence dir (withEvents texts dir) :=
  ⟨_, Appended.texts (fun text member =>
    ⟨(quiet text member).record bounded, quiet text member⟩), rfl⟩

/-- Recording the phases of one iteration. -/
def recording (laws : SamplerLaws honest kept left) (campaignId : String)
    (bounded : sequence ≤ u64Max) (dir : CampaignDir) : Regime where
  honest := honest
  holds := fun world => ∃ texts,
    (∀ text ∈ texts, QuietEvent campaignId sequence text) ∧
      At honest kept (withEvents texts dir) world
  broken := Stop honest left (Torn campaignId sequence dir)
  keeps := fun ⟨texts, quiet, holds⟩ =>
    ⟨texts, quiet, (standing honest kept _).keeps holds⟩
  keepsBroken := id
  answers := fun isHonest _ ⟨_, _, holds⟩ =>
    (standing honest kept _).answers isHonest holds
  stops := fun dishonest _ ⟨_, quiet, holds⟩ =>
    ⟨dishonest, laws.weaken holds.2.1, _, torn_withEvents quiet bounded,
      holds.1⟩

variable (laws : SamplerLaws honest kept left) (bounded : sequence ≤ u64Max)

theorem recording_laws :
    SamplingLaws (recording laws campaignId bounded dir) where
  advance := by
    rintro world inputs ⟨texts, quiet, shown, holds, answers⟩ none
    refine ⟨texts, quiet, ?_, laws.advance holds none, answers⟩
    rw [Shows] at shown ⊢
    simp only [World.advance]
    rw [shown]
  running := fun isHonest _ ⟨_, _, holds⟩ => laws.running isHonest holds.2.1
  healthy := fun isHonest _ ⟨_, _, holds⟩ => laws.healthy isHonest holds.2.1
  retarget := fun ⟨texts, quiet, holds⟩ target =>
    ⟨texts, quiet, holds.1, laws.retarget holds.2.1 target, holds.2.2⟩
  submit := fun ⟨texts, quiet, holds⟩ healthy boundary kind =>
    ⟨texts, quiet, holds.1, laws.submit holds.2.1 healthy boundary kind,
      holds.2.2⟩
  noted := fun dishonest _ ⟨_, quiet, holds⟩ error =>
    ⟨dishonest, laws.noted dishonest holds.2.1 error, _,
      torn_withEvents quiet bounded, holds.1⟩

theorem runs_recordEvent {setting : Setting} {store : EvidenceStore}
    {phase : String} {detail : Json}
    (named : store.campaign.campaignId = campaignId)
    (reported : Reported phase detail) :
    (recording laws campaignId bounded dir).Runs
      (store.recordEvent setting sequence phase detail)
      (fun _ => True) := by
  subst named
  rintro world ⟨texts, quiet, holds⟩
  have isQuiet : ∀ text, IsEvent store.campaign.campaignId sequence phase
      text → QuietEvent store.campaign.campaignId sequence text :=
    fun text isEvent => ⟨phase, reported.named, reported.notSuccess,
      reported.notFailure, isEvent⟩
  have lines : ∀ text landed,
      IsEvent store.campaign.campaignId sequence phase text →
        Torn store.campaign.campaignId sequence dir
          (appendEvents (piece text landed) (withEvents texts dir)) := by
    intro text landed isEvent
    obtain ⟨log, appended, same⟩ := torn_withEvents quiet bounded
    refine ⟨log ++ piece text landed, .write appended
      (isEvent.record bounded) (isQuiet text isEvent) landed, ?_⟩
    rw [same]
    rfl
  refine wp_mono (triple_recordEvent reported.plain lines rfl world holds)
    ?_ ?_ ?_
  · rintro _ after ⟨text, isEvent, reached⟩
    rw [withEvents_append] at reached
    refine ⟨⟨texts ++ [text], ?_, reached⟩, trivial⟩
    intro other member
    rcases List.mem_append.mp member with earlier | last
    · exact quiet other earlier
    · rw [List.mem_singleton.mp last]
      exact isQuiet text isEvent
  · exact fun _ after stopped =>
      ⟨stopped.1, laws.weaken stopped.2.1, stopped.2.2⟩
  · exact fun after stopped =>
      ⟨stopped.1, laws.weaken stopped.2.1, stopped.2.2⟩

theorem observes_combined {setting : Setting} {store : EvidenceStore}
    (named : store.campaign.campaignId = campaignId) (role : String) :
    Observes (recording laws campaignId bounded dir)
      (combinedObserver setting store sequence role) :=
  fun phase detail reported =>
    Regime.runs_bind (runs_recordEvent laws bounded named reported)
      (fun _ _ => observes_samplingRecord (recording_laws laws bounded) role
        phase detail reported)

end Recording

end Endurance
