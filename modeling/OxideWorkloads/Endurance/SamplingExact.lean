/-
A sampled iteration in any campaign directory, against every environment: what
its sampler has written when it ends well, and what the directory holds when
anything in the sampling has failed.
-/

import OxideWorkloads.Endurance.RunNextSpec
import OxideWorkloads.Foundation.Keeping

namespace Endurance

open Foundation
open Foundation.CrashRun
open Foundation.Checks
open Foundation.LineLog (Bytes piece newline Appended)
open Foundation.JsonGrammar (objectFraming)

/-! ### Effects -/

section Effects

variable {kept : World → Prop}

/-- An assertion that does not look at the answers. -/
def Unasked (kept : World → Prop) : Prop :=
  ∀ world, kept world → kept world.consulted

/-- An assertion that survives every change of one directory. -/
def Ignores (kept : World → Prop) (folder : Folder) : Prop :=
  ∀ world, kept world → ∀ change,
    kept { world with disk := folder.update change world.disk }

variable (unasked : Unasked kept)

include unasked

theorem keeps_consult : Keeps kept consult :=
  unasked

theorem keeps_draw : Keeps kept draw :=
  keeps_bind (keeps_consult unasked) (fun answer =>
    keeps_ite keeps_kill (keeps_pure answer))

theorem keeps_perform (doing : String) : Keeps kept (perform doing) := by
  refine keeps_bind (keeps_draw unasked) (fun answer => ?_)
  cases answer.fault with
  | none => exact keeps_pure answer
  | some error => exact keeps_fail _

theorem keeps_nowUnixNanos : Keeps kept nowUnixNanos :=
  keeps_bind (keeps_draw unasked) (fun _ => keeps_ofExcept _)

omit unasked in
theorem nowUnixNanos_returned {timestamp : Nat} {world after : World}
    (returned : nowUnixNanos world = (.ok timestamp, after)) :
    timestamp ≤ u64Max := by
  obtain ⟨answer, _, _, reads⟩ := bind_returned.mp returned
  have known := (ofExcept_returned.mp reads).1
  unfold unixNanos at known
  split at known
  · cases known
  · split at known
    · cases known
      assumption
    · cases known

omit unasked in
theorem keeps_readDisk : Keeps kept readDisk :=
  keeps_bind keeps_state (fun _ => keeps_pure _)

theorem keeps_createDirAll {folder : Folder}
    (created : ∀ world, kept world →
      kept { world with disk := folder.update id world.disk })
    (doing : String) : Keeps kept (createDirAll doing folder) :=
  keeps_bind (keeps_perform unasked doing) (fun _ => keeps_modify created)

omit unasked in
theorem keeps_changeFolder {folder : Folder} (ignores : Ignores kept folder)
    (change : Entries → Entries) :
    Keeps kept (changeDisk (folder.update change)) :=
  keeps_modify (fun world holds => ignores world holds change)

theorem keeps_replaceThrough {folder : Folder} (ignores : Ignores kept folder)
    (parent fileName temp : String) (bytes : Bytes) :
    Keeps kept (replaceThrough parent folder fileName temp bytes) := by
  refine keeps_bind keeps_readDisk (fun disk => ?_)
  refine keeps_ite (keeps_fail _) ?_
  refine keeps_bind (keeps_perform unasked _) (fun _ => ?_)
  refine keeps_bind (keeps_changeFolder ignores _) (fun _ => ?_)
  refine keeps_bind (keeps_consult unasked) (fun answer => ?_)
  refine keeps_ite (keeps_bind (keeps_changeFolder ignores _)
    (fun _ => keeps_kill)) ?_
  cases answer.fault with
  | some error =>
      exact keeps_bind (keeps_changeFolder ignores _) (fun _ => keeps_fail _)
  | none =>
      refine keeps_bind (keeps_changeFolder ignores _) (fun _ => ?_)
      refine keeps_bind (keeps_perform unasked _) (fun _ => ?_)
      refine keeps_bind (keeps_perform unasked _) (fun _ => ?_)
      refine keeps_bind (keeps_perform unasked _) (fun _ => ?_)
      refine keeps_bind (keeps_changeFolder ignores _) (fun _ => ?_)
      exact keeps_bind (keeps_perform unasked _) (fun _ => keeps_pure _)

theorem keeps_atomicWriteJson {folder : Folder}
    (ignores : Ignores kept folder) (parent fileName : String)
    (value : Json) :
    Keeps kept (atomicWriteJson parent folder fileName value) := by
  refine keeps_bind (keeps_createDirAll unasked
    (fun world holds => ignores world holds id) _) (fun _ => ?_)
  refine keeps_bind (keeps_nowUnixNanos unasked) (fun timestamp => ?_)
  refine keeps_bind (keeps_draw unasked) (fun answer => ?_)
  refine keeps_bind (keeps_attempt
    (keeps_replaceThrough unasked ignores _ _ _ _)) (fun written => ?_)
  cases written with
  | ok _ => exact keeps_pure _
  | error error =>
      refine keeps_bind (keeps_draw unasked) (fun removal => ?_)
      exact keeps_ite (keeps_bind (keeps_changeFolder ignores _)
        (fun _ => keeps_fail _)) (keeps_fail _)

/-- An assertion that survives every part of a line of the event log. -/
def Admits (kept : World → Prop) (text : Bytes) : Prop :=
  ∀ world, kept world → ∀ landed,
    kept { world with disk := appendEvents (piece text landed) world.disk }

theorem keeps_appendJsonl {value : Json}
    (admits : Admits kept (Json.compact value)) (path : String) :
    Keeps kept (appendJsonl path value) := by
  have cut : ∀ landed, Keeps kept (changeDisk (appendEvents
      ((Json.compact value ++ [newline]).take landed))) :=
    fun landed => keeps_modify (fun world holds => admits world holds landed)
  have touched : Keeps kept (changeDisk (appendEvents [])) := by
    have none := cut 0
    rwa [List.take_zero] at none
  have whole : Keeps kept (changeDisk (appendEvents
      (Json.compact value ++ [newline]))) := by
    have all := cut (Json.compact value ++ [newline]).length
    rwa [List.take_length] at all
  refine keeps_bind (keeps_perform unasked _) (fun _ => ?_)
  refine keeps_bind touched (fun _ => ?_)
  refine keeps_bind (keeps_consult unasked) (fun answer => ?_)
  refine keeps_ite (keeps_bind (cut _) (fun _ => keeps_kill)) ?_
  cases answer.fault with
  | some error => exact keeps_bind (cut _) (fun _ => keeps_fail _)
  | none =>
      refine keeps_bind whole (fun _ => ?_)
      refine keeps_bind (keeps_perform unasked _) (fun _ => ?_)
      exact keeps_bind (keeps_perform unasked _) (fun _ => keeps_pure _)

theorem keeps_recordEvent {setting : Setting} {store : EvidenceStore}
    {sequence : Nat} {phase : String} {detail : Json}
    (plain : PlainDetail detail)
    (admits : ∀ text, IsEvent store.campaign.campaignId sequence phase text →
      Admits kept text) :
    Keeps kept (store.recordEvent setting sequence phase detail) :=
  keeps_bind_returned (keeps_nowUnixNanos unasked)
    (fun timestamp _ _ returned => keeps_appendJsonl unasked
      (admits _ ⟨timestamp, detail, nowUnixNanos_returned returned, plain,
        rfl⟩) _)

/-- A failed iteration writes to the failures and to the event log. -/
theorem keeps_failIteration {α : Type} {setting : Setting}
    {store : EvidenceStore} {sequence : Nat}
    (ignores : Ignores kept .failures)
    (admits : ∀ text, IsEvent store.campaign.campaignId sequence
      terminalFailurePhase text → Admits kept text) (error : String) :
    Keeps kept (failIteration (α := α) setting sequence store error) := by
  refine keeps_bind (keeps_bind (keeps_bind (keeps_nowUnixNanos unasked)
    (fun timestamp => ?_)) (fun path => ?_)) (fun _ => keeps_fail _)
  · exact keeps_bind (keeps_atomicWriteJson unasked ignores _ _ _)
      (fun _ => keeps_pure _)
  · exact keeps_recordEvent unasked (plain_strings
      [("failure_class", _), ("failure_path", _)] (by simp)) admits

/-- A successful one writes to the iterations and to the event log. -/
theorem keeps_finalizeSuccess {setting : Setting} {store : EvidenceStore}
    {campaignId : String} {sequence : Nat}
    (ignores : Ignores kept .iterations)
    (admits : ∀ text, IsEvent store.campaign.campaignId sequence
      terminalSuccessPhase text → Admits kept text)
    (execution : RecordedExecutionResult) :
    Keeps kept
      (finalizeSuccess setting store campaignId sequence execution) := by
  refine keeps_bind (keeps_bind keeps_readDisk (fun disk => ?_))
    (fun path => ?_)
  · refine keeps_ite (keeps_fail _) ?_
    refine keeps_bind (keeps_nowUnixNanos unasked) (fun timestamp => ?_)
    exact keeps_bind (keeps_atomicWriteJson unasked ignores _ _ _)
      (fun _ => keeps_pure _)
  · exact keeps_bind (keeps_recordEvent unasked
      (plain_strings [("iteration_path", path)] (by simp)) admits)
      (fun _ => keeps_pure _)

/-- Opening creates what is missing and changes no file that is there. -/
theorem keeps_open {setting : Setting} {campaignId : String}
    (top : Ignores kept .top)
    (created : ∀ folder world, kept world →
      kept { world with disk := Folder.update folder id world.disk })
    (touched : ∀ world, kept world →
      kept { world with disk := appendEvents [] world.disk }) :
    Keeps kept (EvidenceStore.open setting campaignId) := by
  refine keeps_bind (keeps_ofExcept _) (fun _ => ?_)
  refine keeps_bind (keeps_createDirAll unasked (created .iterations) _)
    (fun _ => ?_)
  refine keeps_bind (keeps_createDirAll unasked (created .failures) _)
    (fun _ => ?_)
  refine keeps_bind (keeps_nowUnixNanos unasked) (fun createdAt => ?_)
  refine keeps_bind (keeps_ofExcept _) (fun binary => ?_)
  refine keeps_bind ?_ (fun campaign => ?_)
  · refine keeps_bind keeps_readDisk (fun disk => ?_)
    refine keeps_ite ?_ (keeps_bind
      (keeps_atomicWriteJson unasked top _ _ _) (fun _ => keeps_pure _))
    cases fileContent "campaign.json" disk.top with
    | none => exact keeps_fail _
    | some bytes =>
        simp only
        cases setting.parseRecord CampaignRecord.deserialize bytes with
        | error error => exact keeps_fail _
        | ok existing => exact keeps_ite (keeps_pure _) (keeps_fail _)
  · refine keeps_bind (keeps_perform unasked _) (fun _ => ?_)
    refine keeps_bind (keeps_modify touched) (fun _ => ?_)
    exact keeps_bind (keeps_perform unasked _) (fun _ => keeps_pure _)

end Effects

/-! ### What a sampled iteration leaves -/

section Sampled

variable {setting : Setting} {campaignId : String} {sequence : Nat}
variable {intervalMillis : Nat} {dir after cut : CampaignDir}

/-- An event other than the one that claims a success. -/
def NotSuccess (campaignId : String) (sequence : Nat) (text : Bytes) : Prop :=
  ∃ phase, phase ≠ "" ∧ phase ≠ terminalSuccessPhase ∧
    IsEvent campaignId sequence phase text

/-- Nothing was written to the iterations, and no success to the event log;
any of the writes may have been cut short. -/
structure Unrecorded (campaignId : String) (sequence : Nat)
    (dir after : CampaignDir) : Prop where
  iterations : Folder.iterations.get after = Folder.iterations.get dir
  events : Appended objectFraming (NotSuccess campaignId sequence)
    (dir.events.getD []) (after.events.getD [])

theorem Unrecorded.refl (campaignId : String) (sequence : Nat)
    (dir : CampaignDir) : Unrecorded campaignId sequence dir dir :=
  ⟨rfl, .start⟩

theorem Unrecorded.torn (unrecorded : Unrecorded campaignId sequence dir after)
    (quiet : Torn campaignId sequence after cut) :
    Unrecorded campaignId sequence dir cut := by
  obtain ⟨log, appended, rfl⟩ := quiet
  refine ⟨unrecorded.iterations, unrecorded.events.trans
    (appended.mono (fun text isQuiet => ?_))⟩
  obtain ⟨phase, named, notSuccess, _, isEvent⟩ := isQuiet
  exact ⟨phase, named, notSuccess, isEvent⟩

theorem Unrecorded.shown {world : World}
    (unrecorded : Unrecorded campaignId sequence dir after)
    (shown : Shows after world) :
    Unrecorded campaignId sequence dir world.disk := by
  rw [shown]
  exact ⟨unrecorded.iterations, unrecorded.events⟩

variable (campaignId sequence) in
/-- Apart from the directory, only the answers have changed. -/
structure Unspoiled (dir : CampaignDir) (sampler : Sampler)
    (samples : Option Bytes) (world : World) : Prop where
  sampler : world.sampler = sampler
  samples : world.disk.samples = samples
  unrecorded : Unrecorded campaignId sequence dir world.disk

section Unspoiled

variable {sampler : Sampler} {samples : Option Bytes}

theorem unspoiled_unasked :
    Unasked (Unspoiled campaignId sequence dir sampler samples) :=
  fun _ holds => ⟨holds.sampler, holds.samples, holds.unrecorded⟩

theorem unspoiled_ignores {folder : Folder} (other : folder ≠ .iterations) :
    Ignores (Unspoiled campaignId sequence dir sampler samples) folder := by
  intro world holds change
  cases folder with
  | iterations => exact absurd rfl other
  | top =>
      exact ⟨holds.sampler, holds.samples, holds.unrecorded.iterations,
        holds.unrecorded.events⟩
  | failures =>
      exact ⟨holds.sampler, holds.samples, holds.unrecorded.iterations,
        holds.unrecorded.events⟩

theorem unspoiled_admits (bounded : sequence ≤ u64Max) {phase : String}
    (named : phase ≠ "") (notSuccess : phase ≠ terminalSuccessPhase)
    {text : Bytes} (isEvent : IsEvent campaignId sequence phase text) :
    Admits (Unspoiled campaignId sequence dir sampler samples) text :=
  fun _ holds landed =>
    ⟨holds.sampler, holds.samples, holds.unrecorded.iterations,
      .write holds.unrecorded.events (isEvent.record bounded)
        ⟨phase, named, notSuccess, isEvent⟩ landed⟩

theorem unspoiled_open :
    Keeps (Unspoiled campaignId sequence dir sampler samples)
      (EvidenceStore.open setting campaignId) := by
  refine keeps_open unspoiled_unasked (unspoiled_ignores (by decide))
    (fun folder world holds => ?_) (fun world holds => ?_)
  · cases folder <;>
      exact ⟨holds.sampler, holds.samples, holds.unrecorded.iterations,
        holds.unrecorded.events⟩
  · refine ⟨holds.sampler, holds.samples, holds.unrecorded.iterations, ?_⟩
    simp only [appendEvents, List.append_nil, Option.getD_some]
    exact holds.unrecorded.events

theorem unspoiled_failIteration {α : Type} {store : EvidenceStore}
    (bounded : sequence ≤ u64Max)
    (named : store.campaign.campaignId = campaignId) (error : String) :
    Keeps (Unspoiled campaignId sequence dir sampler samples)
      (failIteration (α := α) setting sequence store error) := by
  subst named
  exact keeps_failIteration unspoiled_unasked (unspoiled_ignores (by decide))
    (fun _ isEvent => unspoiled_admits bounded (by decide) (by decide)
      isEvent) error

/-- Finalizing a success leaves the sampler alone. -/
theorem sampler_finalizeSuccess {store : EvidenceStore}
    (execution : RecordedExecutionResult) :
    Keeps (fun world : World => world.sampler = sampler ∧
        world.disk.samples = samples)
      (finalizeSuccess setting store campaignId sequence execution) :=
  keeps_finalizeSuccess (fun _ holds => holds)
    (fun _ holds _ => holds) (fun _ _ _ holds _ => holds) execution

end Unspoiled

theorem loadOrCreate_returned {expected found : CampaignRecord}
    {world last : World}
    (returned : loadOrCreateCampaign setting campaignId expected world =
      (.ok found, last)) : found.campaignId = expected.campaignId := by
  obtain ⟨disk, middle, _, loads⟩ := bind_returned.mp returned
  by_cases present : hasEntry "campaign.json" disk.top = true
  · rw [if_pos present] at loads
    cases content : fileContent "campaign.json" disk.top with
    | none =>
        rw [content] at loads
        cases loads
    | some bytes =>
        rw [content] at loads
        simp only at loads
        cases parses : setting.parseRecord CampaignRecord.deserialize bytes with
        | error error =>
            rw [parses] at loads
            cases loads
        | ok existing =>
            rw [parses] at loads
            simp only at loads
            split_ifs at loads with same
            · obtain ⟨rfl, _⟩ := pure_returned.mp loads
              rw [sameCampaignIdentity_eq same]
            · cases loads
  · rw [if_neg present] at loads
    obtain ⟨_, _, _, ends⟩ := bind_returned.mp loads
    rw [(pure_returned.mp ends).1]

/-- A campaign that has been opened has an event log. -/
theorem open_returned {store : EvidenceStore} {world last : World}
    (returned : EvidenceStore.open setting campaignId world =
      (.ok store, last)) :
    ValidCampaignId campaignId ∧ store.campaign.campaignId = campaignId ∧
      last.disk.events.isSome := by
  obtain ⟨_, _, plans, iterations⟩ := bind_returned.mp returned
  obtain ⟨_, _, _, failures⟩ := bind_returned.mp iterations
  obtain ⟨_, _, _, times⟩ := bind_returned.mp failures
  obtain ⟨_, _, _, names⟩ := bind_returned.mp times
  obtain ⟨_, _, _, loads⟩ := bind_returned.mp names
  obtain ⟨found, _, finds, opens⟩ := bind_returned.mp loads
  obtain ⟨_, opened, _, touches⟩ := bind_returned.mp opens
  obtain ⟨_, touched, change, syncs⟩ := bind_returned.mp touches
  obtain ⟨_, _, performs, ends⟩ := bind_returned.mp syncs
  obtain ⟨rfl, rfl⟩ := pure_returned.mp ends
  refine ⟨(planIteration_eq_ok.mp (ofExcept_returned.mp plans).1).1,
    loadOrCreate_returned finds, ?_⟩
  have present : touched.disk.events.isSome := by
    have same : _ = touched := congrArg Prod.snd change
    rw [← same]
    rfl
  have synced := @keeps_perform (fun world => world.disk.events.isSome)
    (fun _ holds => holds) s!"sync {setting.eventsPath campaignId}" touched
    present
  rwa [performs] at synced

/-- A sampler that ended well wrote one sample for every boundary, the
terminal one last, and periodic ones after the start. -/
structure Complete (before : Bytes) (sampler : Sampler)
    (samples : Option Bytes) (count : Nat) : Prop where
  boundaries : boundarySamples (appendedSamples sampler.history) =
    enqueuedBoundaries sampler.history
  terminal : EndsTerminal sampler.history
  periodic : PeriodicAfterStart sampler.history
  counted : count = (appendedSamples sampler.history).length
  appended : samples.getD [] =
    before ++ (appendedSamples sampler.history).flatMap sampleLine

theorem Balanced.complete {before : Bytes} {sampler : Sampler}
    {samples : Option Bytes} {count : Nat}
    (balanced : Balanced before sampler samples)
    (finished : sampler.phase = .finished (.ok count)) :
    Complete before sampler samples count := by
  have accounts := balanced.accounts
  have working : sampler.phase.Working := by
    rw [finished]
    trivial
  obtain ⟨counted, empty, _⟩ := accounts.finished finished
  have settled := accounts.settled working
  rw [finished, empty] at settled
  exact
    { boundaries := by
        rw [settled]
        simp [SamplerPhase.inHand]
      terminal := balanced.ended finished
      periodic := accounts.periodic
      counted := counted.trans accounts.written
      appended := accounts.bytes working }

variable (campaignId sequence) in
/-- However the iteration ends: its sampler keeps its accounts, unless there
was none, and a failure of the sampling is never recorded as a success. -/
structure Told (world after : World) : Prop where
  sampler : after.sampler = world.sampler ∨
    Balanced (world.disk.samples.getD []) after.sampler after.disk.samples
  success : HasFailed after.sampler.history →
    Unrecorded campaignId sequence world.disk after.disk

theorem Unspoiled.told {world after : World}
    (unspoiled : Unspoiled campaignId sequence world.disk world.sampler
      world.disk.samples after) :
    Told campaignId sequence world after :=
  ⟨Or.inl unspoiled.sampler, fun _ => unspoiled.unrecorded⟩

/-- What follows the choice of the outcome leaves the sampler alone. -/
theorem wp_failIteration_told {α : Type} {store : EvidenceStore}
    {world middle : World} (bounded : sequence ≤ u64Max)
    (named : store.campaign.campaignId = campaignId) (error : String)
    (beside : middle.sampler = world.sampler ∨
      Balanced (world.disk.samples.getD []) middle.sampler
        middle.disk.samples)
    (unrecorded : Unrecorded campaignId sequence world.disk middle.disk) :
    wp (failIteration (α := α) setting sequence store error)
      (Post.always (Told campaignId sequence world)) middle := by
  have here : Unspoiled campaignId sequence world.disk middle.sampler
      middle.disk.samples middle := ⟨rfl, rfl, unrecorded⟩
  have keeps : Keeps (Unspoiled campaignId sequence world.disk middle.sampler
      middle.disk.samples)
      (failIteration (α := α) setting sequence store error) :=
    unspoiled_failIteration bounded named error
  have ends := keeps.wp here
  have tells : ∀ after, Unspoiled campaignId sequence world.disk
      middle.sampler middle.disk.samples after →
        Told campaignId sequence world after := by
    intro after unspoiled
    refine ⟨?_, fun _ => unspoiled.unrecorded⟩
    rw [unspoiled.sampler, unspoiled.samples]
    exact beside
  exact wp_mono ends (fun _ => tells) (fun _ => tells) tells

/-- What is told of an outcome: one that counts as executed follows a sampler
in which nothing has failed. -/
structure Chosen (campaignId : String) (sequence : Nat) (world : World)
    {α : Type} (outcome : Except String α) (middle : World) : Prop where
  balanced : Balanced (world.disk.samples.getD []) middle.sampler
    middle.disk.samples
  clean : ∀ {result}, outcome = .ok result →
    ¬HasFailed middle.sampler.history
  unrecorded : Unrecorded campaignId sequence world.disk middle.disk

theorem wp_observeIteration {store : EvidenceStore} {world connected : World}
    (bounded : sequence ≤ u64Max) (valid : ValidCampaignId campaignId)
    (positive : 0 < sequence)
    (named : store.campaign.campaignId = campaignId)
    (opened : connected.disk.events.isSome)
    (unspoiled : Unspoiled campaignId sequence world.disk world.sampler
      world.disk.samples connected) (role : String) :
    wp (observeIteration setting campaignId sequence intervalMillis store role)
      { ok := Chosen campaignId sequence world
        error := fun _ => Told campaignId sequence world
        killed := Told campaignId sequence world } connected := by
  have unrecorded := unspoiled.unrecorded
  have found : At False (Found (world.disk.samples.getD [])) connected.disk
      connected := by
    refine ⟨rfl, ?_, False.elim⟩
    rw [Found, unspoiled.samples]
  have stops : ∀ after, Stop False (Balanced (world.disk.samples.getD []))
      (Torn campaignId sequence connected.disk) after →
        Told campaignId sequence world after := by
    rintro after ⟨_, balanced, cut, quiet, shown⟩
    exact ⟨Or.inr balanced, fun _ => (unrecorded.torn quiet).shown shown⟩
  have observes := @triple_observeIteration setting campaignId sequence
    intervalMillis False (world.disk.samples.getD []) connected.disk store role
    valid positive bounded opened named connected found
  refine wp_mono observes ?_ (fun _ => stops) stops
  rintro outcome middle ⟨onOk, onError⟩
  cases outcome with
  | error error =>
      obtain ⟨_, cut, quiet, shown, settled, _⟩ := onError error rfl
      exact ⟨settled.balanced, by simp, (unrecorded.torn quiet).shown shown⟩
  | ok pair =>
      obtain ⟨ended, texts, quiet, _, shown, settled, _⟩ :=
        onOk pair.1 pair.2 rfl
      refine ⟨settled.balanced, fun _ => settled.untroubled trivial ?_,
        (unrecorded.torn (torn_withEvents quiet bounded)).shown shown⟩
      rw [ended]
      trivial

/-- What follows a clean sampling leaves the sampler alone. -/
theorem wp_finalizeSuccess_told {α : Type} {store : EvidenceStore}
    {world middle : World} {execution : RecordedExecutionResult}
    (balanced : Balanced (world.disk.samples.getD []) middle.sampler
      middle.disk.samples)
    (clean : ¬HasFailed middle.sampler.history)
    (returns : RecordedIterationOutput → α) :
    wp (finalizeSuccess setting store campaignId sequence execution >>=
        fun recorded => pure (returns recorded))
      (Post.always (Told campaignId sequence world)) middle := by
  have keeps : Keeps (fun after : World =>
      after.sampler = middle.sampler ∧
        after.disk.samples = middle.disk.samples)
      (finalizeSuccess setting store campaignId sequence execution) :=
    sampler_finalizeSuccess execution
  have finalized := (keeps_bind keeps
    (fun recorded => keeps_pure (returns recorded))).wp ⟨rfl, rfl⟩
  have tells : ∀ after : World, after.sampler = middle.sampler ∧
      after.disk.samples = middle.disk.samples →
        Told campaignId sequence world after := by
    rintro after ⟨sameSampler, sameSamples⟩
    constructor
    · rw [sameSampler, sameSamples]
      exact Or.inr balanced
    · rw [sameSampler]
      exact fun failed => absurd failed clean
  exact wp_mono finalized (fun _ => tells) (fun _ => tells) tells

theorem wp_executeSampled (bounded : sequence ≤ u64Max) (world : World) :
    wp (executeSampledRecordedIteration setting campaignId sequence
        intervalMillis)
      (Post.always (Told campaignId sequence world)) world := by
  have here : Unspoiled campaignId sequence world.disk world.sampler
      world.disk.samples world := ⟨rfl, rfl, .refl _ _ _⟩
  have tells : ∀ after, Unspoiled campaignId sequence world.disk world.sampler
      world.disk.samples after → Told campaignId sequence world after :=
    fun _ unspoiled => unspoiled.told
  have checks : ∀ {check : Except String Unit} {program : Program
      SampledRecordedIterationOutput}, wp program
        (Post.always (Told campaignId sequence world)) world →
      wp (ofExcept check >>= fun _ => program)
        (Post.always (Told campaignId sequence world)) world := by
    intro check program continues
    rw [wp_bind, wp_ofExcept]
    cases check with
    | error failure => exact here.told
    | ok _ => exact continues
  refine checks (checks ?_)
  rw [wp_bind, wp_ofExcept]
  cases plans : planIteration campaignId sequence with
  | error failure => exact here.told
  | ok plan =>
      have positive : 0 < sequence := (planIteration_eq_ok.mp plans).2.1
      have keeps : Keeps (Unspoiled campaignId sequence world.disk
          world.sampler world.disk.samples)
          (EvidenceStore.open setting campaignId) := unspoiled_open
      simp only
      rw [wp_bind]
      refine wp_mono (wp_and (keeps.wp here)
        (wp_returned (fun _ _ returned => open_returned returned))) ?_
        (fun _ _ reached => tells _ reached.1)
        (fun _ reached => tells _ reached.1)
      rintro store opened ⟨unspoiled, valid, named, present⟩
      have connects : Keeps (fun current => Unspoiled campaignId sequence
          world.disk world.sampler world.disk.samples current ∧
            current.disk.events.isSome)
          (attempt (perform
            "resource sampler PostgreSQL connection failed")) :=
        keeps_attempt (keeps_perform (fun current holds =>
          ⟨unspoiled_unasked current holds.1, holds.2⟩) _)
      refine (wp_bind _ _ _ _).mpr (wp_mono
        (connects.wp ⟨unspoiled, present⟩) ?_
        (fun _ _ reached => tells _ reached.1)
        (fun _ reached => tells _ reached.1))
      rintro connected middle ⟨still, found⟩
      cases connected with
      | error error =>
          exact wp_failIteration_told bounded named error
            (Or.inl still.sampler) still.unrecorded
      | ok _ =>
          refine (wp_bind _ _ _ _).mpr (wp_mono (wp_observeIteration bounded
            valid positive named found still _) ?_ (fun _ _ told => told)
            (fun _ told => told))
          intro outcome last chosen
          cases outcome with
          | error error =>
              exact wp_failIteration_told bounded named error
                (Or.inr chosen.balanced) chosen.unrecorded
          | ok pair =>
              exact wp_finalizeSuccess_told chosen.balanced (chosen.clean rfl) _

/-- A sampler that returns a count has written every boundary once, in order
and with the terminal one last; and whatever failed in the sampling, no
iteration and no success was written. -/
theorem sampling_exact {world after : World}
    {outcome : Outcome String SampledRecordedIterationOutput}
    (bounded : sequence ≤ u64Max)
    (ran : executeSampledRecordedIteration setting campaignId sequence
      intervalMillis world = (outcome, after)) :
    (∀ count, after.sampler.phase = .finished (.ok count) →
      after.sampler = world.sampler ∨
        Complete (world.disk.samples.getD []) after.sampler
          after.disk.samples count) ∧
    (HasFailed after.sampler.history →
      Unrecorded campaignId sequence world.disk after.disk) := by
  have told : Told campaignId sequence world after := by
    have ends := wp_ends (wp_executeSampled bounded world) ran
    cases outcome <;> exact ends
  exact ⟨fun count finished => told.sampler.imp id
    (fun balanced => balanced.complete finished), told.success⟩

end Sampled

section Finished

variable {setting : Setting} {campaignId : String}
  {sequence intervalMillis : Nat} {store : EvidenceStore}
  {world after : World}

theorem failIteration_not_returned {α : Type} {error : String} {output : α} :
    failIteration setting sequence store error world ≠ (.ok output, after) := by
  intro returned
  obtain ⟨_, _, _, fails⟩ := bind_returned.mp returned
  cases fails

/-- A sampler that is waited for has finished. -/
theorem joinSampler_returned {count : Nat}
    (returned : joinSampler world = (.ok count, after)) :
    after.sampler.phase = .finished (.ok count) := by
  obtain ⟨answer, current, _, joins⟩ := bind_returned.mp returned
  cases fault : answer.fault with
  | some error =>
      rw [fault] at joins
      cases joins
  | none =>
      rw [fault] at joins
      obtain ⟨_, _, reads, waits⟩ := bind_returned.mp joins
      cases reads
      cases phase : current.sampler.phase with
      | finished result =>
          simp only [phase] at waits
          obtain ⟨rfl, rfl⟩ := ofExcept_returned.mp waits
          exact phase
      | _ =>
          simp only [phase] at waits
          cases waits

theorem selectOutcome_joined {α : Type} {execution : Except String α}
    {terminal : Except String Unit} {joined : Except String Nat}
    {chosen : α × Nat}
    (selects : selectOutcome execution terminal joined = .ok chosen) :
    joined = .ok chosen.2 := by
  unfold selectOutcome at selects
  split at selects
  · split at selects
    · cases selects
      rfl
    · cases selects
  · cases selects
  · cases selects

/-- An iteration that counts as executed follows a sampler that has ended
well. -/
theorem settleIteration_finished {α : Type} {execution : Except String α}
    {chosen : α × Nat}
    (settles : settleIteration execution world = (.ok (.ok chosen), after)) :
    after.sampler.phase = .finished (.ok chosen.2) := by
  obtain ⟨terminal, _, _, stops⟩ := bind_returned.mp settles
  obtain ⟨_, stopped, _, joins⟩ := bind_returned.mp stops
  obtain ⟨joined, last, waits, selects⟩ := bind_returned.mp joins
  obtain ⟨chooses, rfl⟩ := pure_returned.mp selects
  have counted := selectOutcome_joined chooses.symm
  rw [counted] at waits
  refine @joinSampler_returned stopped _ _ ?_
  unfold attempt at waits
  cases ran : joinSampler stopped with
  | mk outcome reached =>
      rw [ran] at waits
      cases outcome with
      | ok count =>
          cases waits
          rfl
      | error error => cases waits
      | killed => cases waits

theorem executeSampled_finished {output : SampledRecordedIterationOutput}
    (ran : executeSampledRecordedIteration setting campaignId sequence
      intervalMillis world = (.ok output, after)) :
    after.sampler.phase = .finished (.ok output.samplesWritten) := by
  obtain ⟨_, _, _, ranged⟩ := bind_returned.mp ran
  obtain ⟨_, _, _, planned⟩ := bind_returned.mp ranged
  obtain ⟨_, _, _, opens⟩ := bind_returned.mp planned
  obtain ⟨_, _, _, connects⟩ := bind_returned.mp opens
  obtain ⟨connected, _, _, observes⟩ := bind_returned.mp connects
  cases connected with
  | error error => exact absurd observes failIteration_not_returned
  | ok _ =>
      obtain ⟨outcome, middle, observed, finalizes⟩ :=
        bind_returned.mp observes
      cases outcome with
      | error error => exact absurd finalizes failIteration_not_returned
      | ok pair =>
          obtain ⟨recorded, last, finalized, returns⟩ :=
            bind_returned.mp finalizes
          obtain ⟨rfl, rfl⟩ := pure_returned.mp returns
          obtain ⟨_, _, _, runs⟩ := bind_returned.mp observed
          obtain ⟨execution, _, _, settles⟩ := bind_returned.mp runs
          have kept := wp_ends ((sampler_finalizeSuccess pair.1).wp
            (And.intro rfl rfl)) finalized
          have same : after.sampler = middle.sampler := kept.1
          rw [same]
          exact settleIteration_finished settles

end Finished

/-- The next iteration of a ready campaign returns in an honest
environment. -/
theorem executeSampled_faultless {setting : Setting} {campaignId : String}
    {frontier intervalMillis : Nat} {world : World}
    (ready : Ready setting campaignId world.disk frontier)
    (interval : minSampleIntervalMillis ≤ intervalMillis ∧
      intervalMillis ≤ maxSampleIntervalMillis)
    (faultless : world.supply = (fun _ => faultlessAnswer)) :
    ∃ output after, executeSampledRecordedIteration setting campaignId
      (frontier + 1) intervalMillis world = (.ok output, after) := by
  obtain ⟨_, _, _, content⟩ := ready_iff.mp ready
  have here : At True Unwatched world.disk world :=
    ⟨rfl, trivial, fun _ => faultless⟩
  have ends := triple_executeSampled content.prepared content.valid
    (Nat.succ_pos frontier) content.room (fun _ => interval) world here
  cases ran : executeSampledRecordedIteration setting campaignId (frontier + 1)
      intervalMillis world with
  | mk outcome after =>
      have reached := wp_ends ends ran
      cases outcome with
      | ok output => exact ⟨output, after, rfl⟩
      | error error => exact absurd trivial reached.1
      | killed => exact absurd trivial reached.1

/-- An honest first iteration returns, with a sampler that has finished and
written every boundary. -/
theorem sampling_exact_fresh : ∃ output after,
    executeSampledRecordedIteration exampleSetting "c" 1 10
        (World.start freshDir (fun _ => faultlessAnswer)) =
      (.ok output, after) ∧
    after.sampler.phase = .finished (.ok output.samplesWritten) ∧
    Complete (freshDir.samples.getD []) after.sampler after.disk.samples
      output.samplesWritten ∧
    (HasFailed after.sampler.history →
      Unrecorded "c" 1 freshDir after.disk) := by
  have fresh : Ready exampleSetting "c"
      (World.start freshDir (fun _ => faultlessAnswer)).disk 0 :=
    freshDir_ready
  obtain ⟨output, after, ran⟩ := executeSampled_faultless fresh
    (show minSampleIntervalMillis ≤ 10 ∧ 10 ≤ maxSampleIntervalMillis
      by decide) rfl
  have told := sampling_exact (show 0 + 1 ≤ u64Max by decide) ran
  have finished := executeSampled_finished ran
  refine ⟨output, after, ran, finished, ?_, told.2⟩
  rcases told.1 _ finished with unspawned | complete
  · rw [unspawned] at finished
    cases finished
  · exact complete

end Endurance
