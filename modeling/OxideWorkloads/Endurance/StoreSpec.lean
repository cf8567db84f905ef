/-
What the evidence store does to the campaign directory.

Every program of the store is followed once, for all environments: what it
leaves when it returns, and every directory it can leave when it fails or is
killed.  The sample log is left open throughout, since the sampler may write
to it at any time.
-/

import OxideWorkloads.Endurance.IterationSpec

namespace Endurance

open Foundation
open Foundation.CrashRun
open Foundation.Checks
open Foundation.LineLog (Bytes piece newline)

/-! ### Directories up to the sample log -/

/-- The directory of a world, whatever its sample log. -/
def Shows (dir : CampaignDir) (world : World) : Prop :=
  world.disk = { dir with samples := world.disk.samples }

/-- A statement about the sampler and its log. -/
abbrev Beside := Sampler → Option Bytes → Prop

/-- Between two effects: the directory, what holds beside it, and in an honest
run the answers. -/
def At (honest : Prop) (beside : Beside) (dir : CampaignDir)
    (world : World) : Prop :=
  Shows dir world ∧ beside world.sampler world.disk.samples ∧
    (honest → world.supply = (fun _ => faultlessAnswer))

/-- Where a run can stop early: at one of several directories. -/
def Stop (honest : Prop) (beside : Beside) (dirs : CampaignDir → Prop)
    (world : World) : Prop :=
  ¬honest ∧ beside world.sampler world.disk.samples ∧
    ∃ dir, dirs dir ∧ Shows dir world

variable {honest : Prop} {beside : Beside} {dir : CampaignDir}
variable {α β : Type}

theorem Stop.mono {dirs others : CampaignDir → Prop} {world : World}
    (weaker : ∀ dir, dirs dir → others dir) (stopped : Stop honest beside dirs world) :
    Stop honest beside others world := by
  obtain ⟨dishonest, holds, dir, one, shown⟩ := stopped
  exact ⟨dishonest, holds, dir, weaker dir one, shown⟩

/-- Standing at one directory is a regime. -/
def standing (honest : Prop) (beside : Beside) (dir : CampaignDir) :
    Regime where
  honest := honest
  holds := At honest beside dir
  broken := Stop honest beside (fun other => other = dir)
  keeps := fun holds => ⟨holds.1, holds.2.1, fun isHonest => by
    rw [World.consulted, holds.2.2 isHonest]⟩
  keepsBroken := id
  answers := fun isHonest _ holds => by rw [holds.2.2 isHonest]
  stops := fun dishonest _ holds => ⟨dishonest, holds.2.1, dir, rfl, holds.1⟩

/-- A program that leaves the directory alone can stop at it. -/
theorem triple_standing {program : Program α} {returns : α → Prop}
    {dirs : CampaignDir → Prop}
    (runs : (standing honest beside dir).Runs program returns)
    (here : dirs dir) :
    Triple (At honest beside dir) program
      (fun value world => At honest beside dir world ∧ returns value)
      (Stop honest beside dirs) :=
  triple_consequence runs (fun _ => id) (fun _ _ => id)
    (fun world (stopped : Stop honest beside (fun other => other = dir) world) =>
      stopped.mono (fun _ same => by rw [same]; exact here))

/-- The next step after a program that leaves the directory alone. -/
theorem triple_standing_bind {program : Program α} {next : α → Program β}
    {returns : α → Prop} {dirs : CampaignDir → Prop}
    {post : β → World → Prop}
    (runs : (standing honest beside dir).Runs program returns)
    (here : dirs dir)
    (continues : ∀ value, returns value →
      Triple (At honest beside dir) (next value) post (Stop honest beside dirs)) :
    Triple (At honest beside dir) (program >>= next) post
      (Stop honest beside dirs) :=
  triple_bind (triple_standing runs here) (fun value world reached =>
    continues value reached.2 world reached.1)

/-- A change of the directory that does not look at the sample log. -/
def Blind (update : CampaignDir → CampaignDir) : Prop :=
  ∀ dir samples, update { dir with samples := samples } =
    { update dir with samples := samples }

theorem blind_appendEvents (bytes : Bytes) : Blind (appendEvents bytes) :=
  fun _ _ => rfl

theorem blind_update (folder : Folder) (change : Entries → Entries) :
    Blind (folder.update change) := by
  intro dir samples
  cases folder <;> rfl

theorem Shows.update {update : CampaignDir → CampaignDir} {world : World}
    (shown : Shows dir world) (blind : Blind update) :
    Shows (update dir) { world with disk := update world.disk } := by
  unfold Shows at *
  rw [shown, blind]

theorem Shows.samples {update : CampaignDir → CampaignDir} {world : World}
    (shown : Shows dir world) (blind : Blind update) :
    (update world.disk).samples = world.disk.samples := by
  unfold Shows at shown
  rw [shown, blind]

theorem At.update {update : CampaignDir → CampaignDir} {world : World}
    (holds : At honest beside dir world) (blind : Blind update) :
    At honest beside (update dir)
      { world with disk := update world.disk } := by
  refine ⟨holds.1.update blind, ?_, holds.2.2⟩
  rw [holds.1.samples blind]
  exact holds.2.1

theorem triple_changeDisk {update : CampaignDir → CampaignDir}
    {broken : World → Prop} (blind : Blind update) :
    Triple (At honest beside dir) (changeDisk update)
      (fun _ => At honest beside (update dir)) broken :=
  triple_modify (fun _ holds => holds.update blind)

/-- A change after which the run goes on. -/
theorem triple_changeDisk_bind {update : CampaignDir → CampaignDir}
    {next : Unit → Program β} {dirs : CampaignDir → Prop}
    {post : β → World → Prop} (blind : Blind update)
    (continues : Triple (At honest beside (update dir)) (next ()) post
      (Stop honest beside dirs)) :
    Triple (At honest beside dir) (changeDisk update >>= next) post
      (Stop honest beside dirs) :=
  triple_bind (triple_changeDisk blind) (fun _ => continues)

theorem triple_stop {program : Program α} {dirs : CampaignDir → Prop}
    {post : α → World → Prop} (dishonest : ¬honest) (here : dirs dir)
    (stops : ∀ world, Stop honest beside dirs world →
      wp program
        { ok := post
          error := fun _ => Stop honest beside dirs
          killed := Stop honest beside dirs } world) :
    Triple (At honest beside dir) program post (Stop honest beside dirs) :=
  fun world holds => stops world
    ⟨dishonest, holds.2.1, dir, here, holds.1⟩

/-- A killed or failed write that leaves something behind. -/
theorem triple_change_stop {update : CampaignDir → CampaignDir}
    {next : Program α} {dirs : CampaignDir → Prop} {post : α → World → Prop}
    (blind : Blind update) (dishonest : ¬honest) (left : dirs (update dir))
    (stops : ∀ world, Stop honest beside dirs world →
      wp next
        { ok := post
          error := fun _ => Stop honest beside dirs
          killed := Stop honest beside dirs } world) :
    Triple (At honest beside dir) (changeDisk update >>= fun _ => next) post
      (Stop honest beside dirs) :=
  triple_changeDisk_bind blind (triple_stop dishonest left stops)

/-! ### Leaves -/

namespace Regime

variable {regime : Regime}

theorem runs_nowUnixNanos :
    regime.Runs nowUnixNanos (fun timestamp => timestamp ≤ u64Max) := by
  refine runs_bind runs_draw (fun answer known => ?_)
  refine runs_ofExcept (fun timestamp same => ?_) (fun isHonest => ?_)
  · unfold unixNanos at same
    split at same
    · cases same
    · split at same
      · cases same
        assumption
      · cases same
  · rw [known isHonest]
    exact ⟨0, rfl⟩

theorem runs_performed (doing : String) :
    regime.Runs (perform doing) (fun _ => True) :=
  runs_mono (runs_perform doing) (fun _ _ => trivial)

end Regime

theorem appendEvents_nil (created : dir.events.isSome) :
    appendEvents [] dir = dir := by
  obtain ⟨log, present⟩ := Option.isSome_iff_exists.mp created
  cases dir
  simp only at present
  simp [appendEvents, present]

/-- One line, or the beginning of it. -/
theorem triple_appendJsonl (path : String) (value : Json)
    {dirs : CampaignDir → Prop}
    (torn : ∀ landed,
      dirs (appendEvents (piece (Json.compact value) landed) dir))
    (created : dir.events.isSome) :
    Triple (At honest beside dir) (appendJsonl path value)
      (fun _ => At honest beside
        (appendEvents (Json.compact value ++ [newline]) dir))
      (Stop honest beside dirs) := by
  have here : dirs dir := by
    have none := torn 0
    rwa [LineLog.piece_zero, appendEvents_nil created] at none
  have whole : dirs
      (appendEvents (Json.compact value ++ [newline]) dir) := by
    have all := torn ((Json.compact value).length + 1)
    rwa [LineLog.piece_whole (Nat.lt_succ_self _)] at all
  unfold appendJsonl
  refine triple_standing_bind (Regime.runs_performed _) here (fun _ _ => ?_)
  refine triple_changeDisk_bind (blind_appendEvents []) ?_
  rw [appendEvents_nil created]
  refine triple_standing_bind Regime.runs_consult here (fun answer known => ?_)
  refine triple_ite (fun killed => ?_) (fun _ => ?_)
  · refine triple_change_stop (blind_appendEvents _) (fun isHonest => ?_)
      (torn answer.landed) (fun _ => id)
    rw [known isHonest] at killed
    cases killed
  · cases fault : answer.fault with
    | some error =>
        refine triple_change_stop (blind_appendEvents _) (fun isHonest => ?_)
          (torn answer.landed) (fun _ => id)
        rw [known isHonest] at fault
        cases fault
    | none =>
        refine triple_changeDisk_bind (blind_appendEvents _) ?_
        refine triple_standing_bind (Regime.runs_performed _) whole
          (fun _ _ => ?_)
        refine triple_standing_bind (Regime.runs_performed _) whole
          (fun _ _ => ?_)
        exact triple_pure (fun _ => id)

/-- One event, or the beginning of its line. -/
theorem triple_recordEvent {setting : Setting} {store : EvidenceStore}
    {sequence : Nat} {phase : String} {detail : Json}
    {dirs : CampaignDir → Prop} (plain : PlainDetail detail)
    (torn : ∀ text landed,
      IsEvent store.campaign.campaignId sequence phase text →
        dirs (appendEvents (piece text landed) dir))
    (created : dir.events.isSome) :
    Triple (At honest beside dir)
      (store.recordEvent setting sequence phase detail)
      (fun _ world => ∃ text,
        IsEvent store.campaign.campaignId sequence phase text ∧
          At honest beside (appendEvents (text ++ [newline]) dir) world)
      (Stop honest beside dirs) := by
  have isEvent : ∀ timestamp ≤ u64Max,
      IsEvent store.campaign.campaignId sequence phase (Json.compact
        (eventJson timestamp store.campaign.campaignId sequence phase
          detail)) :=
    fun timestamp inTime => ⟨timestamp, detail, inTime, plain, rfl⟩
  have here : dirs dir := by
    have none := torn _ 0 (isEvent 0 (Nat.zero_le _))
    rwa [LineLog.piece_zero, appendEvents_nil created] at none
  unfold EvidenceStore.recordEvent
  refine triple_standing_bind Regime.runs_nowUnixNanos here
    (fun timestamp inTime => ?_)
  exact triple_consequence (triple_appendJsonl _ _
    (fun landed => torn _ landed (isEvent timestamp inTime)) created)
    (fun _ => id) (fun _ _ reached => ⟨_, isEvent timestamp inTime, reached⟩)
    (fun _ => id)

/-! ### Entries -/

section Entries

variable {entries : Entries} {name : String} {content : Bytes}

theorem putFile_absent (absent : hasEntry name entries = false) :
    putFile name content entries = entries ++ [(.utf8 name, some content)] := by
  induction entries with
  | nil => rfl
  | cons entry rest ih =>
      simp only [hasEntry, List.any_cons, Bool.or_eq_false_iff,
        decide_eq_false_iff_not] at absent
      rw [putFile, if_neg absent.1, ih absent.2]
      rfl

theorem putFile_last (absent : hasEntry name entries = false)
    (old : Option Bytes) :
    putFile name content (entries ++ [(.utf8 name, old)]) =
      entries ++ [(.utf8 name, some content)] := by
  induction entries with
  | nil => simp [putFile]
  | cons entry rest ih =>
      simp only [hasEntry, List.any_cons, Bool.or_eq_false_iff,
        decide_eq_false_iff_not] at absent
      rw [List.cons_append, putFile, if_neg absent.1, ih absent.2]
      rfl

theorem removeFile_absent (absent : hasEntry name entries = false) :
    removeFile name entries = entries := by
  apply List.filter_eq_self.mpr
  intro entry member
  have different := List.any_eq_false.mp absent entry member
  simpa using different

theorem removeFile_append (absent : hasEntry name entries = false)
    (entry : Entry) :
    removeFile name (entries ++ [entry]) = entries ∨
      removeFile name (entries ++ [entry]) = entries ++ [entry] := by
  have before := removeFile_absent absent
  unfold removeFile at before ⊢
  rw [List.filter_append, before]
  by_cases same : entry.1 = .utf8 name
  · exact Or.inl (by simp [same])
  · exact Or.inr (by simp [same])

theorem removeFile_last (absent : hasEntry name entries = false)
    (old : Option Bytes) :
    removeFile name (entries ++ [(.utf8 name, old)]) = entries := by
  have before := removeFile_absent absent
  unfold removeFile at before ⊢
  rw [List.filter_append, before]
  simp

theorem hasEntry_temporary {temp : String}
    (solid : ∀ entry ∈ entries, ¬TemporaryNamed entry)
    (temporary : TemporaryNamed (.utf8 temp, none)) :
    hasEntry temp entries = false := by
  rw [hasEntry, List.any_eq_false]
  intro entry member
  simp only [decide_eq_true_eq]
  intro same
  obtain ⟨fileName, processId, timestamp, name⟩ := temporary
  exact solid entry member ⟨fileName, processId, timestamp, same.trans name⟩

/-- What an atomic write can leave in its directory. -/
inductive Landed (entries : Entries) (fileName : String) (content : Bytes) :
    Entries → Prop where
  | untouched : Landed entries fileName content entries
  | temporary (entry : Entry) (named : TemporaryNamed entry) :
      Landed entries fileName content (entries ++ [entry])
  | replaced : Landed entries fileName content
      (entries ++ [(.utf8 fileName, some content)])

theorem Landed.removeFile {fileName temp : String} {after : Entries}
    (landed : Landed entries fileName content after)
    (absent : hasEntry temp entries = false) :
    Landed entries fileName content (removeFile temp after) := by
  cases landed with
  | untouched =>
      rw [removeFile_absent absent]
      exact .untouched
  | temporary entry named =>
      rcases removeFile_append absent entry with gone | stays
      · rw [gone]
        exact .untouched
      · rw [stays]
        exact .temporary entry named
  | replaced =>
      rcases removeFile_append absent (.utf8 fileName, some content) with
        gone | stays
      · rw [gone]
        exact .untouched
      · rw [stays]
        exact .replaced

end Entries

/-! ### Atomic replacement -/

/-- The directory has been created. -/
def Folder.Created (folder : Folder) (dir : CampaignDir) : Prop :=
  folder.update id dir = dir

theorem Folder.update_update (folder : Folder)
    (first second : Entries → Entries) (dir : CampaignDir) :
    folder.update second (folder.update first dir) =
      folder.update (fun entries => second (first entries)) dir := by
  cases folder <;> rfl

/-- Replace the entries of a directory. -/
def Folder.set (folder : Folder) (entries : Entries) (dir : CampaignDir) :
    CampaignDir :=
  folder.update (fun _ => entries) dir

theorem Folder.update_eq_set (folder : Folder) (change : Entries → Entries)
    (dir : CampaignDir) :
    folder.update change dir = folder.set (change (folder.get dir)) dir := by
  cases folder <;> rfl

theorem Folder.update_set (folder : Folder) (change : Entries → Entries)
    (entries : Entries) (dir : CampaignDir) :
    folder.update change (folder.set entries dir) =
      folder.set (change entries) dir :=
  folder.update_update _ change dir

theorem Folder.set_get {folder : Folder} (created : folder.Created dir) :
    folder.set (folder.get dir) dir = dir := by
  have same := folder.update_eq_set id dir
  rw [created] at same
  exact same.symm

theorem runs_readDisk :
    (standing honest beside dir).Runs readDisk
      (fun disk => disk = { dir with samples := disk.samples }) :=
  fun _ holds => ⟨holds, holds.1⟩

theorem Folder.get_shown {disk : CampaignDir} (folder : Folder)
    (shown : disk = { dir with samples := disk.samples }) :
    folder.get disk = folder.get dir := by
  rw [shown]
  cases folder <;> rfl

@[simp] theorem wp_changeDisk (update : CampaignDir → CampaignDir)
    (post : Post World String Unit) (world : World) :
    wp (changeDisk update) post world ↔
      post.ok () { world with disk := update world.disk } :=
  Iff.rfl

section AtomicWrite

variable {folder : Folder} {fileName temp : String} {bytes : Bytes}

/-- The directories that one replacement can leave. -/
def Replaced (folder : Folder) (fileName : String) (bytes : Bytes)
    (dir after : CampaignDir) : Prop :=
  ∃ entries, Landed (folder.get dir) fileName bytes entries ∧
    after = folder.set entries dir

theorem triple_replaceThrough (parent : String)
    (created : folder.Created dir)
    (fresh : hasEntry fileName (folder.get dir) = false)
    (temporary : TemporaryNamed (.utf8 temp, none))
    (absent : hasEntry temp (folder.get dir) = false) :
    Triple (At honest beside dir)
      (replaceThrough parent folder fileName temp bytes)
      (fun _ => At honest beside (folder.set
        (folder.get dir ++ [(.utf8 fileName, some bytes)]) dir))
      (Stop honest beside (Replaced folder fileName bytes dir)) := by
  have here : Replaced folder fileName bytes dir dir :=
    ⟨_, .untouched, (Folder.set_get created).symm⟩
  have staged : ∀ content, Replaced folder fileName bytes dir
      (folder.set (folder.get dir ++ [(.utf8 temp, some content)]) dir) :=
    fun content =>
      ⟨_, .temporary (.utf8 temp, some content) temporary, rfl⟩
  have restage : ∀ old content, folder.update (putFile temp content)
      (folder.set (folder.get dir ++ [(.utf8 temp, some old)]) dir) =
        folder.set (folder.get dir ++ [(.utf8 temp, some content)]) dir := by
    intro old content
    rw [Folder.update_set, putFile_last absent]
  unfold replaceThrough
  refine triple_standing_bind runs_readDisk here (fun disk shown => ?_)
  rw [folder.get_shown shown, absent, if_neg (by decide)]
  refine triple_standing_bind (Regime.runs_performed _) here (fun _ _ => ?_)
  refine triple_changeDisk_bind (blind_update folder _) ?_
  rw [folder.update_eq_set, putFile_absent absent]
  refine triple_standing_bind Regime.runs_consult (staged [])
    (fun answer known => ?_)
  refine triple_ite (fun killed => ?_) (fun _ => ?_)
  · refine triple_change_stop (blind_update folder _) (fun isHonest => ?_)
      ?_ (fun _ => id)
    · rw [known isHonest] at killed
      cases killed
    · rw [restage]
      exact staged _
  · cases fault : answer.fault with
    | some error =>
        refine triple_change_stop (blind_update folder _)
          (fun isHonest => ?_) ?_ (fun _ => id)
        · rw [known isHonest] at fault
          cases fault
        · rw [restage]
          exact staged _
    | none =>
        refine triple_changeDisk_bind (blind_update folder _) ?_
        rw [restage]
        refine triple_standing_bind (Regime.runs_performed _) (staged bytes)
          (fun _ _ => ?_)
        refine triple_standing_bind (Regime.runs_performed _) (staged bytes)
          (fun _ _ => ?_)
        refine triple_standing_bind (Regime.runs_performed _) (staged bytes)
          (fun _ _ => ?_)
        refine triple_changeDisk_bind (blind_update folder _) ?_
        rw [Folder.update_set, removeFile_last absent, putFile_absent fresh]
        refine triple_standing_bind (Regime.runs_performed _)
          ⟨_, .replaced, rfl⟩ (fun _ _ => ?_)
        exact triple_pure (fun _ => id)

theorem triple_atomicWriteJson (parent : String) (value : Json)
    {dirs : CampaignDir → Prop} (created : folder.Created dir)
    (fresh : hasEntry fileName (folder.get dir) = false)
    (solid : ∀ entry ∈ folder.get dir, ¬TemporaryNamed entry)
    (landed : ∀ after, Replaced folder fileName
      (Json.pretty value ++ [newline]) dir after → dirs after) :
    Triple (At honest beside dir)
      (atomicWriteJson parent folder fileName value)
      (fun _ => At honest beside (folder.set (folder.get dir ++
        [(.utf8 fileName, some (Json.pretty value ++ [newline]))]) dir))
      (Stop honest beside dirs) := by
  have here : dirs dir :=
    landed dir ⟨_, .untouched, (Folder.set_get created).symm⟩
  unfold atomicWriteJson createDirAll
  refine triple_bind (triple_standing_bind (Regime.runs_performed _) here
    (fun _ _ => triple_changeDisk (blind_update folder id))) (fun _ => ?_)
  rw [created]
  refine triple_standing_bind Regime.runs_nowUnixNanos here
    (fun timestamp _ => ?_)
  refine triple_standing_bind Regime.runs_draw here (fun answer _ => ?_)
  have temporary : TemporaryNamed
      (.utf8 (temporaryName fileName answer.processId timestamp), none) :=
    ⟨fileName, answer.processId, timestamp, rfl⟩
  have absent := hasEntry_temporary solid temporary
  intro world holds
  simp only [wp_bind, wp_attempt]
  refine wp_mono (triple_replaceThrough parent created fresh temporary absent
    world holds) (fun _ _ reached => reached) ?_
    (fun _ stopped => stopped.mono landed)
  rintro error after
    ⟨dishonest, holds, left, ⟨entries, landedEntries, rfl⟩, shown⟩
  have removed := landed _ ⟨_, landedEntries.removeFile absent, rfl⟩
  have kept := landed _ ⟨_, landedEntries, rfl⟩
  simp only [wp_draw]
  split_ifs
  · exact ⟨dishonest, holds, _, kept, shown⟩
  · have blind := blind_update folder (removeFile
      (temporaryName fileName answer.processId timestamp))
    have updated := shown.update blind
    rw [Folder.update_set] at updated
    simp only [wp_bind, wp_changeDisk, wp_fail]
    refine ⟨dishonest, ?_, _, removed, updated⟩
    have same := shown.samples blind
    simp only [World.consulted] at same ⊢
    rw [same]
    exact holds
  · exact ⟨dishonest, holds, _, kept, shown⟩

end AtomicWrite

/-! ### The store -/

theorem hasEntry_of_fileContent {name : String} {entries : Entries}
    {content : Bytes} (found : fileContent name entries = some content) :
    hasEntry name entries = true := by
  unfold fileContent at found
  split at found
  · rename_i entryName entryContent located
    have holds := List.find?_some located
    exact List.any_eq_true.mpr
      ⟨_, List.mem_of_find?_eq_some located, holds⟩
  · cases found

/-- A campaign directory that can be opened again. -/
structure Openable (setting : Setting) (campaignId : String)
    (dir : CampaignDir) : Prop where
  loads : ∃ campaign,
    loadExistingCampaignReadonly setting campaignId dir = .ok campaign
  events : dir.events.isSome
  iterations : Folder.iterations.Created dir
  failures : Folder.failures.Created dir

theorem Openable.identity {setting : Setting} {campaignId : String}
    (openable : Openable setting campaignId dir) :
    ∃ bytes campaign binary,
      fileContent "campaign.json" dir.top = some bytes ∧
        setting.parseRecord CampaignRecord.deserialize bytes =
          .ok campaign ∧ setting.binary = .ok binary ∧
        campaign.campaignId = campaignId ∧
        ∀ createdAt, sameCampaignIdentity campaign
          (expectedCampaign campaignId createdAt binary) = true := by
  obtain ⟨campaign, loads⟩ := openable.loads
  obtain ⟨_, bytes, binary, content, parsed, known, shape⟩ :=
    loadExisting_valid loads
  refine ⟨bytes, campaign, binary, content, parsed, known, ?_, ?_⟩
  · rw [shape]
    rfl
  · intro createdAt
    rw [shape]
    simp [sameCampaignIdentity, expectedCampaign]

/-- Opening an existing campaign changes nothing. -/
theorem runs_open {setting : Setting} {campaignId : String}
    (openable : Openable setting campaignId dir) :
    (standing honest beside dir).Runs
      (EvidenceStore.open setting campaignId)
      (fun store => store.campaign.campaignId = campaignId) := by
  obtain ⟨loaded, loads⟩ := openable.loads
  have valid := (loadExisting_valid loads).1
  obtain ⟨bytes, campaign, binary, content, parsed, known, named, same⟩ :=
    openable.identity
  have reaches : ∀ folder : Folder, folder.Created dir → ∀ doing,
      (standing honest beside dir).Runs (createDirAll doing folder)
        (fun _ => True) := by
    intro folder created doing
    refine Regime.runs_bind (Regime.runs_performed _) (fun _ _ => ?_)
    intro world holds
    have changed := holds.update (blind_update folder id)
    rw [created] at changed
    exact ⟨changed, trivial⟩
  have touches : (standing honest beside dir).Runs
      (changeDisk (appendEvents [])) (fun _ => True) := by
    intro world holds
    have changed := holds.update (blind_appendEvents [])
    rw [appendEvents_nil openable.events] at changed
    exact ⟨changed, trivial⟩
  unfold EvidenceStore.open
  rw [planIteration_planOf valid (Nat.succ_pos 0), known]
  refine Regime.runs_bind (P := fun _ => True) (Regime.runs_pure trivial)
    (fun _ _ => ?_)
  refine Regime.runs_bind (reaches .iterations openable.iterations _)
    (fun _ _ => ?_)
  refine Regime.runs_bind (reaches .failures openable.failures _)
    (fun _ _ => ?_)
  refine Regime.runs_bind Regime.runs_nowUnixNanos (fun createdAt _ => ?_)
  refine Regime.runs_bind (Regime.runs_pure rfl) ?_
  rintro other rfl
  refine Regime.runs_bind
    (P := fun found : CampaignRecord => found.campaignId = campaignId) ?_
    (fun found foundNamed => ?_)
  · unfold loadOrCreateCampaign
    refine Regime.runs_bind runs_readDisk (fun disk shown => ?_)
    have top : disk.top = dir.top := by rw [shown]
    simp only [top, hasEntry_of_fileContent content, if_true, content, parsed,
      same createdAt]
    exact Regime.runs_pure named
  · refine Regime.runs_bind (Regime.runs_performed _) (fun _ _ => ?_)
    refine Regime.runs_bind touches (fun _ _ => ?_)
    refine Regime.runs_bind (Regime.runs_performed _) (fun _ _ => ?_)
    exact Regime.runs_pure foundNamed

section Finalize

variable {setting : Setting} {store : EvidenceStore} {campaignId : String}
variable {sequence : Nat} {execution : RecordedExecutionResult}

/-- The iteration directory with the singleton of a sequence added. -/
def withIteration (sequence : Nat) (content : Bytes) (dir : CampaignDir) :
    CampaignDir :=
  Folder.iterations.set (Folder.iterations.get dir ++
    [(.utf8 (iterationFileName sequence), some content)]) dir

theorem triple_finalizeSuccess {dirs : CampaignDir → Prop}
    (named : store.campaign.campaignId = campaignId)
    (opened : dir.events.isSome) (created : Folder.iterations.Created dir)
    (fresh : hasEntry (iterationFileName sequence)
      (Folder.iterations.get dir) = false)
    (solid : ∀ entry ∈ Folder.iterations.get dir, ¬TemporaryNamed entry)
    (replaced : ∀ content after,
      IsIteration campaignId sequence execution content →
        Replaced .iterations (iterationFileName sequence) content dir after →
          dirs after)
    (torn : ∀ content text landed,
      IsIteration campaignId sequence execution content →
        IsEvent campaignId sequence terminalSuccessPhase text →
          dirs (appendEvents (piece text landed)
            (withIteration sequence content dir))) :
    Triple (At honest beside dir)
      (finalizeSuccess setting store campaignId sequence execution)
      (fun _ world => ∃ content text,
        IsIteration campaignId sequence execution content ∧
          IsEvent campaignId sequence terminalSuccessPhase text ∧
          At honest beside (appendEvents (text ++ [newline])
            (withIteration sequence content dir)) world)
      (Stop honest beside dirs) := by
  subst named
  have here : dirs dir := replaced _ dir ⟨0, Nat.zero_le _, rfl⟩
    ⟨_, .untouched, (Folder.set_get created).symm⟩
  have writes : Triple (At honest beside dir)
      (store.writeSuccess setting sequence execution)
      (fun _ world => ∃ content,
        IsIteration store.campaign.campaignId sequence execution content ∧
          At honest beside (withIteration sequence content dir) world)
      (Stop honest beside dirs) := by
    unfold EvidenceStore.writeSuccess
    refine triple_standing_bind runs_readDisk here (fun disk shown => ?_)
    rw [Folder.iterations.get_shown shown, fresh, if_neg (by decide)]
    refine triple_standing_bind Regime.runs_nowUnixNanos here
      (fun timestamp inTime => ?_)
    have isIteration : IsIteration store.campaign.campaignId sequence
        execution _ := ⟨timestamp, inTime, rfl⟩
    refine triple_bind (triple_atomicWriteJson _ _ created fresh solid
      (replaced _ · isIteration)) (fun _ => ?_)
    exact triple_pure (fun _ reached => ⟨_, isIteration, reached⟩)
  unfold finalizeSuccess
  refine triple_bind writes (fun path => ?_)
  rintro world ⟨content, isIteration, reached⟩
  refine triple_bind (triple_recordEvent
    (plain_strings [("iteration_path", path)] (by simp))
    (fun text landed => torn content text landed isIteration) opened)
    (fun _ => ?_) world reached
  exact triple_pure (fun _ recorded => by
    obtain ⟨text, isEvent, after⟩ := recorded
    exact ⟨content, text, isIteration, isEvent, after⟩)

/-- Recording a failure never ends well, and touches nothing but failure
evidence. -/
theorem triple_failIteration {dirs : CampaignDir → Prop} (error : String)
    (named : store.campaign.campaignId = campaignId)
    (opened : dir.events.isSome) (empty : dir.failures = some [])
    (left : ∀ entries text landed,
      IsEvent campaignId sequence terminalFailurePhase text →
        dirs (appendEvents (piece text landed)
          (Folder.failures.set entries dir))) :
    Triple (At False beside dir)
      (failIteration (α := α) setting sequence store error)
      (fun _ _ => False) (Stop False beside dirs) := by
  subst named
  have created : Folder.failures.Created dir := by
    cases dir
    simp only at empty
    simp [Folder.Created, Folder.update, empty]
  have untouched : ∀ entries, dirs (Folder.failures.set entries dir) := by
    intro entries
    have none := left entries _ 0 ⟨0, .null, Nat.zero_le _, rfl, rfl⟩
    rw [LineLog.piece_zero, appendEvents_nil (by exact opened)] at none
    exact none
  have here : dirs dir := by
    have same := untouched (Folder.failures.get dir)
    rwa [Folder.set_get created] at same
  have none : Folder.failures.get dir = [] := by
    simp [Folder.get, empty]
  have writes : ∀ failureClass redacted, Triple (At False beside dir)
      (store.writeFailure setting sequence failureClass redacted)
      (fun _ world => ∃ entries,
        At False beside (Folder.failures.set entries dir) world)
      (Stop False beside dirs) := by
    intro failureClass redacted
    unfold EvidenceStore.writeFailure
    refine triple_standing_bind Regime.runs_nowUnixNanos here
      (fun timestamp _ => ?_)
    refine triple_bind (triple_atomicWriteJson _ _ created (by rw [none]; rfl)
      (by simp [none]) ?_) (fun _ => ?_)
    · rintro after ⟨entries, _, rfl⟩
      exact untouched entries
    · exact triple_pure (fun _ reached => ⟨_, reached⟩)
  have records : Triple (At False beside dir)
      (finalizeFailure setting store sequence error)
      (fun _ => Stop False beside dirs) (Stop False beside dirs) := by
    refine triple_bind (writes _ _) (fun path => ?_)
    rintro world ⟨entries, reached⟩
    refine wp_mono (triple_recordEvent
      (plain_strings [("failure_class", _), ("failure_path", _)] (by simp)) (fun text landed => left entries text landed) opened
      world reached) ?_ (fun _ _ => id) (fun _ => id)
    rintro _ after ⟨text, isEvent, holds⟩
    have whole := left entries text (text.length + 1) isEvent
    rw [LineLog.piece_whole (Nat.lt_succ_self _)] at whole
    exact ⟨not_false, holds.2.1, _, whole, holds.1⟩
  exact triple_bind records (fun _ => triple_fail (fun _ => id) error)

end Finalize

end Endurance
