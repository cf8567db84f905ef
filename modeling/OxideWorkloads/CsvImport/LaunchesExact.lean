/-
The rows of an instance belong to its identity as long as no launch opens
another content than it hashed.

A launch whose version is the one of the instance has the stored state of the
reader; every change of an instance makes the version larger, so other
launches fall behind and are refused.
-/

import OxideWorkloads.CsvImport.Launches

namespace CsvImport

open Foundation
open Foundation.LineLog (Bytes)

variable {platform : Platform} {reader : DelimitedReader platform}

/-! ### What holds in every state -/

/-- The committed rows are those of the first records of a content, and the
stored state is the one behind them. -/
structure ReadFrom (job : JobInstance reader) (content : Bytes)
    (count : Nat) : Prop where
  rows : rowsOf platform ((platform.records content).take count) =
    some job.committed
  rest : reader.rest content job.checkpoint =
    (platform.records content).drop count
  whole : job.status = .completed →
    (platform.records content).drop count = []

/-- An instance is untouched, or has read one content with its identity. -/
def Owns (contents : Bytes → Prop) (job : JobInstance reader)
    (inputSha256 : String) : Prop :=
  (job.committed = [] ∧ job.checkpoint = reader.start ∧
      job.status ≠ .completed) ∨
    ∃ content count, contents content ∧
      sha256OfFile platform content = inputSha256 ∧
      ReadFrom job content count

/-- What a launch has opened is what it hashed, and a running launch that has
not fallen behind has the stored state. -/
def Phase.Fits (contents : Bytes → Prop)
    (instances : String → JobInstance reader) : Phase reader → Prop
  | .opened inputSha256 content =>
      contents content ∧ sha256OfFile platform content = inputSha256
  | .running inputSha256 content version state =>
      contents content ∧ sha256OfFile platform content = inputSha256 ∧
        version ≤ (instances inputSha256).version ∧
        ((instances inputSha256).version = version →
          state = (instances inputSha256).checkpoint)
  | _ => True

structure World.Sound (contents : Bytes → Prop) (world : World reader) :
    Prop where
  content : contents world.content
  instances : ∀ inputSha256,
    Owns contents (world.instances inputSha256) inputSha256
  launches : ∀ launch ∈ world.launches,
    launch.phase.Fits contents world.instances

/-- What the reader opens still has the SHA-256 that the launch computed. -/
def World.Steady (world : World reader) (event : Event) : Prop :=
  ∀ position launch inputSha256, event = .move position →
    world.launches[position]? = some launch →
    launch.phase = .hashed inputSha256 →
      sha256OfFile platform world.content = inputSha256

/-- States that are reached by steps that are all steady, while the path holds
some contents. -/
inductive Reached (reader : DelimitedReader platform)
    (contents : Bytes → Prop) : World reader → Prop where
  | initial {content : Bytes} (allowed : contents content) :
      Reached reader contents (World.initial reader content)
  | step {world : World reader} {event : Event}
      (earlier : Reached reader contents world)
      (allowed : ∀ content, event = .replace content → contents content)
      (steady : world.Steady event) :
      Reached reader contents (world.step event)

/-! ### One change -/

variable {contents : Bytes → Prop} {world : World reader}

theorem World.instances_same (inputSha256 : String)
    (job : JobInstance reader) :
    (world.setInstance inputSha256 job).instances inputSha256 = job :=
  if_pos rfl

/-- A launch that has just changed its instance. -/
theorem Phase.fits_running {inputSha256 : String} {content : Bytes}
    {job : JobInstance reader} (allowed : contents content)
    (identity : sha256OfFile platform content = inputSha256) :
    (Phase.running inputSha256 content job.version job.checkpoint).Fits
      contents (world.setInstance inputSha256 job).instances := by
  refine ⟨allowed, identity, ?_, ?_⟩
  · rw [World.instances_same]
  · intro _
    rw [World.instances_same]

/-- A launch stays as it is when an instance changes: it has opened the same
content, and on this instance it has fallen behind. -/
theorem Phase.Fits.newer {phase : Phase reader} {inputSha256 : String}
    {job : JobInstance reader}
    (fits : phase.Fits contents world.instances)
    (newer : (world.instances inputSha256).version < job.version) :
    phase.Fits contents (world.setInstance inputSha256 job).instances := by
  cases phase with
  | starting => exact trivial
  | hashed other => exact trivial
  | opened other content => exact fits
  | running other content version state =>
      obtain ⟨allowed, identity, bounded, stored⟩ := fits
      by_cases same : other = inputSha256
      · have behind : version < job.version := by
          rw [same] at bounded
          omega
        refine ⟨allowed, identity, ?_, ?_⟩
        · rw [same, World.instances_same]
          omega
        · intro versions
          rw [same, World.instances_same] at versions
          omega
      · have unchanged : (world.setInstance inputSha256 job).instances other =
            world.instances other := if_neg same
        refine ⟨allowed, identity, ?_, ?_⟩
        · rw [unchanged]
          exact bounded
        · rw [unchanged]
          exact stored
  | ended => exact trivial

theorem World.Sound.setLaunch (sound : world.Sound contents)
    {position : Nat} {launch : Launch reader} {phase : Phase reader}
    (fits : phase.Fits contents world.instances) :
    (world.setLaunch position launch phase).Sound contents := by
  constructor
  · exact sound.content
  · exact sound.instances
  · intro other member
    rcases List.mem_or_eq_of_mem_set member with before | same
    · exact sound.launches other before
    · rw [same]
      exact fits

theorem World.Sound.setInstance (sound : world.Sound contents)
    {inputSha256 : String} {job : JobInstance reader}
    (newer : (world.instances inputSha256).version < job.version)
    (owns : Owns contents job inputSha256) :
    (world.setInstance inputSha256 job).Sound contents := by
  constructor
  · exact sound.content
  · intro other
    by_cases same : other = inputSha256
    · rw [same, World.instances_same]
      exact owns
    · have unchanged : (world.setInstance inputSha256 job).instances other =
          world.instances other := if_neg same
      rw [unchanged]
      exact sound.instances other
  · intro launch member
    exact (sound.launches launch member).newer newer

theorem World.Sound.endLaunch (sound : world.Sound contents)
    {position : Nat} {launch : Launch reader} :
    (world.setLaunch position launch .ended).Sound contents :=
  sound.setLaunch trivial

/-- An instance with another status and version, and not completed by it. -/
theorem Owns.restate {job : JobInstance reader} {inputSha256 : String}
    (owns : Owns contents job inputSha256) {status : BatchStatus}
    (version : Nat) (unfinished : status ≠ .completed) :
    Owns contents { job with status, version } inputSha256 := by
  rcases owns with fresh | read
  · exact Or.inl ⟨fresh.1, fresh.2.1, unfinished⟩
  · obtain ⟨content, count, allowed, identity, from_⟩ := read
    refine Or.inr ⟨content, count, allowed, identity, from_.rows, from_.rest,
      ?_⟩
    intro completed
    exact absurd completed unfinished

/-- What an instance has read, seen from a launch that has its stored state:
the content is the same one. -/
theorem Owns.readFrom {job : JobInstance reader} {inputSha256 : String}
    {content : Bytes} (owns : Owns contents job inputSha256)
    (distinct : ∀ left right, contents left → contents right →
      sha256OfFile platform left = sha256OfFile platform right →
        left = right)
    (allowed : contents content)
    (identity : sha256OfFile platform content = inputSha256) :
    ∃ count, ReadFrom job content count := by
  rcases owns with fresh | read
  · refine ⟨0, ?_⟩
    constructor
    · rw [fresh.1]
      rfl
    · rw [fresh.2.1, reader.rest_start]
      rfl
    · intro completed
      exact absurd completed fresh.2.2
  · obtain ⟨other, count, otherAllowed, otherIdentity, from_⟩ := read
    have same := distinct other content otherAllowed allowed
      (otherIdentity.trans identity.symm)
    rw [same] at from_
    exact ⟨count, from_⟩

theorem rowsOf_append {first second : List (Except String (List String))}
    {here later : List CustomerRow}
    (one : rowsOf platform first = some here)
    (tail : rowsOf platform second = some later) :
    rowsOf platform (first ++ second) = some (here ++ later) := by
  unfold rowsOf at one tail ⊢
  rw [List.mapM_append, one, tail]
  rfl

/-- The records behind the ones that were read, and a chunk of them. -/
theorem ReadFrom.commit {job other : JobInstance reader} {content : Bytes}
    {count size : Nat} {rows : List CustomerRow}
    (from_ : ReadFrom job content count)
    (behind : reader.rest content job.checkpoint ≠ [])
    (processed : rowsOf platform
      ((reader.rest content job.checkpoint).take size) = some rows)
    (status : other.status = job.status)
    (committed : other.committed = job.committed ++ rows)
    (checkpoint : other.checkpoint =
      reader.advance content job.checkpoint
        ((reader.rest content job.checkpoint).take size).length) :
    ReadFrom other content (count +
      ((reader.rest content job.checkpoint).take size).length) := by
  rw [from_.rest] at behind processed checkpoint ⊢
  have chunk : ((platform.records content).drop count).take
        (((platform.records content).drop count).take size).length =
      ((platform.records content).drop count).take size := by
    rw [List.length_take, ← List.take_take, List.take_length]
  constructor
  · rw [List.take_add, chunk, committed]
    exact rowsOf_append from_.rows processed
  · rw [checkpoint, reader.rest_advance, from_.rest, List.drop_drop]
  · intro completed
    rw [status] at completed
    exact absurd (from_.whole completed) behind

theorem World.Sound.begin (sound : world.Sound contents) {position : Nat}
    {launch : Launch reader} {inputSha256 : String} {content : Bytes}
    (allowed : contents content)
    (identity : sha256OfFile platform content = inputSha256) :
    (world.begin position launch inputSha256 content).Sound contents := by
  unfold World.begin
  dsimp only
  split
  · exact sound.endLaunch
  · let job : JobInstance reader :=
      { world.instances inputSha256 with
        status := .started
        version := (world.instances inputSha256).version + 1 }
    have owns : Owns contents job inputSha256 :=
      (sound.instances inputSha256).restate _ (by decide)
    have changed : (world.setInstance inputSha256 job).Sound contents :=
      sound.setInstance (Nat.lt_succ_self _) owns
    exact changed.setLaunch (Phase.fits_running allowed identity)

theorem World.Sound.chunk (sound : world.Sound contents)
    (distinct : ∀ left right, contents left → contents right →
      sha256OfFile platform left = sha256OfFile platform right →
        left = right)
    {position : Nat} {launch : Launch reader} {inputSha256 : String}
    {content : Bytes} {version : Nat} {state : reader.State}
    (fits : (Phase.running inputSha256 content version state).Fits contents
      world.instances) :
    (world.chunk position launch inputSha256 content version state).Sound
      contents := by
  obtain ⟨allowed, identity, _, stored⟩ := fits
  have owns := sound.instances inputSha256
  unfold World.chunk
  dsimp only
  split
  · exact sound.endLaunch
  · rename_i current
    have versions := Decidable.not_not.mp current
    have states := stored versions
    obtain ⟨count, from_⟩ := owns.readFrom distinct allowed identity
    rw [states]
    split
    · rename_i ended
      apply World.Sound.endLaunch
      apply sound.setInstance
      · rw [versions]
        exact Nat.lt_succ_self _
      · right
        refine ⟨content, count, allowed, identity, from_.rows, from_.rest, ?_⟩
        intro _
        rw [← from_.rest]
        exact ended
    · rename_i first others behind
      split
      · apply World.Sound.endLaunch
        apply sound.setInstance
        · rw [versions]
          exact Nat.lt_succ_self _
        · exact owns.restate _ (by decide)
      · rename_i rows processed
        rw [← behind] at processed ⊢
        have nonempty : reader.rest content
            (world.instances inputSha256).checkpoint ≠ [] := by
          rw [behind]
          exact List.cons_ne_nil _ _
        let job : JobInstance reader :=
          { world.instances inputSha256 with
            version := version + 1
            checkpoint := reader.advance content
              (world.instances inputSha256).checkpoint
              ((reader.rest content
                (world.instances inputSha256).checkpoint).take
                  launch.chunkSize).length
            committed := (world.instances inputSha256).committed ++ rows }
        have newer : (world.instances inputSha256).version < job.version := by
          rw [versions]
          exact Nat.lt_succ_self _
        have reads : ∃ total, ReadFrom job content total :=
          ⟨_, from_.commit nonempty processed rfl rfl rfl⟩
        obtain ⟨total, reads⟩ := reads
        have changed : (world.setInstance inputSha256 job).Sound contents :=
          sound.setInstance newer
            (Or.inr ⟨content, total, allowed, identity, reads⟩)
        exact changed.setLaunch (Phase.fits_running allowed identity)

theorem World.Sound.fail (sound : world.Sound contents) {position : Nat}
    {launch : Launch reader} :
    (world.fail position launch).Sound contents := by
  unfold World.fail
  split
  · rename_i inputSha256 content version state phase
    dsimp only
    split
    · exact sound.endLaunch
    · rename_i current
      apply World.Sound.endLaunch
      apply sound.setInstance
      · rw [Decidable.not_not.mp current]
        exact Nat.lt_succ_self _
      · exact (sound.instances inputSha256).restate _ (by decide)
  · exact sound.endLaunch

theorem World.Sound.recover (sound : world.Sound contents) :
    world.recover.Sound contents := by
  unfold World.recover
  dsimp only
  split
  · apply sound.setInstance (Nat.lt_succ_self _)
    exact (sound.instances _).restate _ (by decide)
  · exact sound

theorem World.Sound.atLaunch (sound : world.Sound contents) {position : Nat}
    {change : Launch reader → World reader}
    (changes : ∀ launch, world.launches[position]? = some launch →
      (change launch).Sound contents) :
    (world.atLaunch position change).Sound contents := by
  unfold World.atLaunch
  split
  · rename_i launch found
    exact changes launch found
  · exact sound

theorem World.Sound.step (sound : world.Sound contents)
    (distinct : ∀ left right, contents left → contents right →
      sha256OfFile platform left = sha256OfFile platform right →
        left = right)
    {event : Event}
    (allowed : ∀ content, event = .replace content → contents content)
    (steady : world.Steady event) : (world.step event).Sound contents := by
  cases event with
  | replace content =>
      constructor
      · exact allowed content rfl
      · exact sound.instances
      · exact sound.launches
  | launch chunkSize =>
      constructor
      · exact sound.content
      · exact sound.instances
      · intro launch member
        rcases List.mem_append.mp member with before | new
        · exact sound.launches launch before
        · rw [List.mem_singleton.mp new]
          exact trivial
  | move position =>
      apply sound.atLaunch
      intro launch found
      have fits := sound.launches launch (List.mem_of_getElem? found)
      unfold World.move
      cases phase : launch.phase with
      | starting => exact sound.setLaunch trivial
      | hashed inputSha256 =>
          have same := steady position launch inputSha256 rfl found phase
          exact sound.setLaunch ⟨sound.content, same⟩
      | opened inputSha256 content =>
          rw [phase] at fits
          exact sound.begin fits.1 fits.2
      | running inputSha256 content version state =>
          rw [phase] at fits
          exact sound.chunk distinct fits
      | ended => exact sound
  | fail position =>
      apply sound.atLaunch
      intro launch _
      exact sound.fail
  | kill position =>
      apply sound.atLaunch
      intro launch _
      exact sound.endLaunch
  | recover => exact sound.recover

theorem Reached.sound (reached : Reached reader contents world)
    (distinct : ∀ left right, contents left → contents right →
      sha256OfFile platform left = sha256OfFile platform right →
        left = right) : world.Sound contents := by
  induction reached with
  | initial allowed =>
      constructor
      · exact allowed
      · intro inputSha256
        left
        refine ⟨rfl, rfl, ?_⟩
        intro impossible
        cases impossible
      · intro launch member
        cases member
  | step _ allowed steady ih => exact ih.step distinct allowed steady

/-- Every launch that has only hashed the file has hashed its content. -/
def World.Agrees (world : World reader) : Prop :=
  ∀ launch ∈ world.launches, ∀ inputSha256,
    launch.phase = .hashed inputSha256 →
      sha256OfFile platform world.content = inputSha256

theorem World.Agrees.setLaunch (agrees : world.Agrees) {position : Nat}
    {launch : Launch reader} {phase : Phase reader}
    (same : ∀ inputSha256, phase = .hashed inputSha256 →
      sha256OfFile platform world.content = inputSha256) :
    (world.setLaunch position launch phase).Agrees := by
  intro other member
  rcases List.mem_or_eq_of_mem_set member with before | new
  · exact agrees other before
  · rw [new]
    exact same

theorem World.Agrees.endLaunch (agrees : world.Agrees) {position : Nat}
    {launch : Launch reader} :
    (world.setLaunch position launch .ended).Agrees := by
  apply agrees.setLaunch
  intro inputSha256 impossible
  cases impossible

theorem World.Agrees.runLaunch (agrees : world.Agrees) {position : Nat}
    {launch : Launch reader} {inputSha256 : String} {content : Bytes}
    {version : Nat} {state : reader.State} :
    (world.setLaunch position launch
      (.running inputSha256 content version state)).Agrees := by
  apply agrees.setLaunch
  intro other impossible
  cases impossible

theorem World.Agrees.setInstance (agrees : world.Agrees)
    {inputSha256 : String} {job : JobInstance reader} :
    (world.setInstance inputSha256 job).Agrees :=
  agrees

theorem World.Agrees.move (agrees : world.Agrees) {position : Nat}
    {launch : Launch reader} : (world.move position launch).Agrees := by
  unfold World.move
  split
  · apply agrees.setLaunch
    intro inputSha256 same
    cases same
    rfl
  · apply agrees.setLaunch
    intro inputSha256 impossible
    cases impossible
  · unfold World.begin
    dsimp only
    split
    · exact agrees.endLaunch
    · exact agrees.setInstance.runLaunch
  · unfold World.chunk
    dsimp only
    split
    · exact agrees.endLaunch
    · split
      · exact agrees.setInstance.endLaunch
      · split
        · exact agrees.setInstance.endLaunch
        · exact agrees.setInstance.runLaunch
  · exact agrees

theorem World.Agrees.fail (agrees : world.Agrees) {position : Nat}
    {launch : Launch reader} : (world.fail position launch).Agrees := by
  unfold World.fail
  split
  · dsimp only
    split
    · exact agrees.endLaunch
    · exact agrees.setInstance.endLaunch
  · exact agrees.endLaunch

theorem World.Agrees.recover (agrees : world.Agrees) :
    world.recover.Agrees := by
  unfold World.recover
  dsimp only
  split
  · exact agrees.setInstance
  · exact agrees

theorem World.Agrees.step (agrees : world.Agrees) {event : Event}
    (kept : ∀ content, event ≠ .replace content) :
    (world.step event).Agrees := by
  cases event with
  | replace content => exact absurd rfl (kept content)
  | launch chunkSize =>
      intro launch member
      rcases List.mem_append.mp member with before | new
      · exact agrees launch before
      · rw [List.mem_singleton.mp new]
        intro inputSha256 impossible
        cases impossible
  | move position =>
      change (world.atLaunch position _).Agrees
      unfold World.atLaunch
      split
      · exact agrees.move
      · exact agrees
  | fail position =>
      change (world.atLaunch position _).Agrees
      unfold World.atLaunch
      split
      · exact agrees.fail
      · exact agrees
  | kill position =>
      change (world.atLaunch position _).Agrees
      unfold World.atLaunch
      split
      · exact agrees.endLaunch
      · exact agrees
  | recover => exact agrees.recover

theorem World.Agrees.steady (agrees : world.Agrees) (event : Event) :
    world.Steady event := by
  intro position launch inputSha256 _ found phase
  exact agrees launch (List.mem_of_getElem? found) inputSha256 phase

end CsvImport
