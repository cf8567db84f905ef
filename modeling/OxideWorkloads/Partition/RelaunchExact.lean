/-
What holds at any moment of the life of a run.

The rows of the run are projections of one source, the one its plan was made
for, however often the run was started over and whatever happened to the source
in between.  The verification passes only when the source is that one again.
-/

import OxideWorkloads.Partition.Relaunch

namespace Partition

open Foundation
open Foundation.Checks
open Foundation.LineLog (Bytes)

variable {sha256 : Bytes → Vector UInt8 32} {planStore : PlanStore}
variable {runName : String} {start : Destination}

/-- A run before its first launch. -/
def newborn (start : Destination) (source : SourceTable) : RunLife :=
  { source
    stored := none
    writes := { destination := start, passed := [] } }

theorem newborn_alive {seen : List SourceTable} {source : SourceTable} :
    Alive sha256 runName start seen (newborn start source) where
  unplanned := fun _ => rfl
  planned := fun _ none => by cases none

/-! ### The ids of the source -/

theorem mutateSource_isSome (source : SourceTable)
    (sourceId delta id : Bigint) :
    (((Recoveryctl.mutateSource source sourceId delta).2).get? id).isSome =
      (source.get? id).isSome := by
  unfold Recoveryctl.mutateSource
  by_cases still : delta.val = 0
  · rw [if_pos still]
  · rw [if_neg still]
    cases found : source.get? sourceId with
    | none => rfl
    | some payload =>
        dsimp only
        cases fits : Word.toBigint? (payload.val + delta.val) with
        | none => rfl
        | some changed =>
            change ((source.insert sourceId changed).get? id).isSome = _
            rw [OrderedMap.get?_insert]
            by_cases same : id = sourceId
            · rw [if_pos same, same, found]
              rfl
            · rw [if_neg same]

@[simp] theorem launch_source {rows : UInt64} {partitions : UInt16}
    {workers : UInt8} {runs : List WorkerRun} {life : RunLife} :
    ((LifeStep.launch rows partitions workers runs).run sha256 planStore
      runName life).source = life.source := by
  rw [LifeStep.run]
  cases launched : Partition.launch sha256 planStore runName rows partitions
      workers runs life with
  | error error => rfl
  | ok after =>
      obtain ⟨_, _, _, _, _, same, _⟩ := launch_eq_ok launched
      exact same

@[simp] theorem mutate_source {sourceId delta : Bigint} {life : RunLife} :
    ((LifeStep.mutate sourceId delta).run sha256 planStore runName
      life).source =
        (Recoveryctl.mutateSource life.source sourceId delta).2 :=
  rfl

/-- No step adds or removes an id of the source. -/
theorem LifeStep.run_isSome (life : RunLife) (step : LifeStep) (id : Bigint) :
    ((step.run sha256 planStore runName life).source.get? id).isSome =
      (life.source.get? id).isSome := by
  cases step with
  | launch rows partitions workers runs => rw [launch_source]
  | mutate sourceId delta => exact mutateSource_isSome _ _ _ _

theorem sourcesSeen_isSome {steps : List LifeStep} {life : RunLife}
    {source : SourceTable}
    (member : source ∈ sourcesSeen sha256 planStore runName steps life)
    (id : Bigint) :
    (source.get? id).isSome = (life.source.get? id).isSome := by
  induction steps generalizing life with
  | nil => rw [List.mem_singleton.mp member]
  | cons step rest ih =>
      rcases List.mem_cons.mp member with here | later
      · rw [here]
      · rw [ih later, LifeStep.run_isSome]

/-! ### Any moment -/

/-- The rows of a run, at any moment of any life, are projections of the source
that its stored plan was made for: launches over other sources have added
nothing.  Once every partition of the plan has passed, the rows are exactly
those projections.  The rows of other runs are as they were. -/
theorem runLife_keeps_source (keepsPlans : planStore.Keeps)
    (untouched : start runName = OrderedMap.empty) (source : SourceTable)
    (steps : List LifeStep)
    (apart : AllApart sha256
      (sourcesSeen sha256 planStore runName steps (newborn start source))) :
    let final := runLife sha256 planStore runName steps (newborn start source)
    (∀ name, name ≠ runName → final.writes.destination name = start name) ∧
      (final.stored = none → final.writes.destination runName =
        OrderedMap.empty) ∧
      ∀ stored, final.stored = some stored →
        ∃ origin ∈ sourcesSeen sha256 planStore runName steps
            (newborn start source),
          ∃ rows partitions width,
            validateShape rows partitions 1 = .ok width ∧
              assignments rows partitions = .ok stored.plan ∧
              stored.sourceDigest = (sourceIdentity sha256 origin).2 ∧
              Projected origin stored.plan
                (final.writes.destination runName) ∧
              ((∀ planned ∈ stored.plan, planned ∈ final.writes.passed) →
                Exactly origin width (final.writes.destination runName)) := by
  intro final
  have alive := (newborn_alive.run keepsPlans untouched apart
    (fun _ member => member)).1
  refine ⟨?_, ?_, ?_⟩
  · intro name other
    cases planned : final.stored with
    | none => rw [alive.unplanned planned]
    | some stored =>
        obtain ⟨_, _, _, _, _, made⟩ := alive.planned stored planned
        exact made.keeps.progress.framed name other
  · intro unplanned
    rw [alive.unplanned unplanned]
    exact untouched
  · intro stored planned
    obtain ⟨origin, known, rows, partitions, width, made⟩ :=
      alive.planned stored planned
    refine ⟨origin, known, rows, partitions, width, ?_, ?_, made.digest,
      made.keeps.projected, ?_⟩
    · exact validateShape_eq_ok.mpr
        ⟨made.shape, by decide, made.shape.nonempty⟩
    · exact (assignments_eq_ok made.shape).mpr made.isPlan
    · exact made.keeps.exactly made.shape made.isPlan made.total

/-- A plan is the plan of one shape. -/
theorem IsPlan.shape_unique {plan : List Assignment}
    {rows rows' : UInt64} {partitions partitions' : UInt16}
    {width width' : UInt64} (shape : Shape rows partitions width)
    (again : Shape rows' partitions' width')
    (isPlan : IsPlan partitions width plan)
    (samePlan : IsPlan partitions' width' plan) :
    rows = rows' ∧ width = width' := by
  have count : partitions.toNat = partitions'.toNat :=
    isPlan.length_eq.symm.trans samePlan.length_eq
  obtain ⟨planned, member⟩ := List.exists_mem_of_length_pos (by
    rw [isPlan.length_eq]
    exact shape.nonempty)
  have widths : width = width' := IsRange.width_eq
    (isPlan.ranged planned member) (samePlan.ranged planned member)
  refine ⟨?_, widths⟩
  rw [← UInt64.toNat_inj, shape.exact, again.exact, count, widths]

/-- The source `fourRows` with one value changed. -/
def shifted : SourceTable :=
  (Recoveryctl.mutateSource fourRows (small 1) (small 1)).2

/-- The worker of the second range dies after its write; a launch over a
changed source follows, and then one over the restored source. -/
def crashSteps : List LifeStep :=
  [.launch 4 2 1 [{ position := 0, stopped := false, fate := .answered },
      { position := 1, stopped := false, fate := .unanswered }],
    .mutate (small 1) (small 1),
    .launch 4 2 2 [{ position := 1, stopped := false, fate := .answered }],
    .mutate (small 1) ⟨-1, by decide⟩,
    .launch 4 2 1 [{ position := 1, stopped := false, fate := .answered }]]

def keepFirst : PlanStore :=
  fun stored offered => stored.getD offered

theorem keepFirst_keeps : keepFirst.Keeps :=
  ⟨fun _ => rfl, fun _ _ => rfl⟩

theorem crash_seen : ∀ source ∈ sourcesSeen Sha256.digest keepFirst "run"
    crashSteps (newborn (fun _ => OrderedMap.empty) fourRows),
    source = fourRows ∨ source = shifted := by
  have changed : (Recoveryctl.mutateSource fourRows (small 1) (small 1)).2 =
      shifted := rfl
  have restored : (Recoveryctl.mutateSource shifted (small 1)
      ⟨-1, by decide⟩).2 = fourRows := rfl
  intro source member
  simp only [crashSteps, sourcesSeen, launch_source, mutate_source, newborn,
    changed, restored, List.mem_cons, List.not_mem_nil, or_false] at member
  rcases member with same | same | same | same | same | same
  · exact Or.inl same
  · exact Or.inl same
  · exact Or.inr same
  · exact Or.inr same
  · exact Or.inl same
  · exact Or.inl same

theorem crash_apart : AllApart Sha256.digest (sourcesSeen Sha256.digest
    keepFirst "run" crashSteps
      (newborn (fun _ => OrderedMap.empty) fourRows)) := by
  have different : Sha256.digest (sourceText fourRows) ≠
      Sha256.digest (sourceText shifted) := by
    decide +kernel
  intro first inFirst second inSecond same
  rcases crash_seen first inFirst with isFirst | isFirst
  · rcases crash_seen second inSecond with isSecond | isSecond
    · rw [isFirst, isSecond]
    · rw [isFirst, isSecond] at same
      exact absurd same different
  · rcases crash_seen second inSecond with isSecond | isSecond
    · rw [isFirst, isSecond] at same
      exact absurd same.symm different
    · rw [isFirst, isSecond]

theorem runLife_keeps_source_crash :
    ∃ origin : SourceTable, Projected origin twoRanges
        ((runLife Sha256.digest keepFirst "run" crashSteps
          (newborn (fun _ => OrderedMap.empty) fourRows)).writes.destination
            "run") ∧
      Exactly origin 2
        ((runLife Sha256.digest keepFirst "run" crashSteps
          (newborn (fun _ => OrderedMap.empty) fourRows)).writes.destination
            "run") := by
  have planned : (runLife Sha256.digest keepFirst "run" crashSteps (newborn
      (fun _ => OrderedMap.empty) fourRows)).stored.map StoredPlan.plan =
        some twoRanges := by
    decide +kernel
  have passed : ∀ planned ∈ twoRanges, planned ∈ (runLife Sha256.digest
      keepFirst "run" crashSteps (newborn (fun _ => OrderedMap.empty)
        fourRows)).writes.passed := by
    decide +kernel
  obtain ⟨stored, isStored, samePlan⟩ := Option.map_eq_some_iff.mp planned
  obtain ⟨origin, _, rows, partitions, width, accepted, built, _, projected,
      complete⟩ :=
    (runLife_keeps_source keepFirst_keeps rfl fourRows crashSteps
      crash_apart).2.2 stored isStored
  rw [samePlan] at built projected complete
  have two : width = 2 := by
    have shape := (validateShape_eq_ok.mp accepted).1
    have isPlan := (assignments_eq_ok shape).mp built
    have twoShape := (validateShape_eq_ok.mp
      (by decide : validateShape 4 2 1 = .ok 2)).1
    have twoPlan := (assignments_eq_ok twoShape).mp
      (by decide : assignments 4 2 = .ok twoRanges)
    exact (IsPlan.shape_unique shape twoShape isPlan twoPlan).2
  rw [two] at complete
  exact ⟨origin, projected, complete passed⟩

/-! ### The verification -/

theorem verifyBusiness_exactly {source : SourceTable}
    {destination : Destination} {rows : UInt64} {partitions : UInt16}
    {width : UInt64} (shape : Shape rows partitions width)
    (fits : Fits source width)
    (noCollision : ∀ expected, expectedRows source width = .ok expected →
      NoCollision sha256 expected (destination runName).entries) :
    ∃ verification,
      verifyBusiness sha256 source destination runName rows partitions
          width = .ok verification ∧
        (verification.passed rows = true ↔
          source.entries.length = rows.toNat ∧
            Exactly source width (destination runName)) := by
  obtain ⟨expected, computed⟩ := expectedRows_of_fits shape.positive fits
  rw [exactly_iff shape.positive fits computed]
  exact verifyBusiness_passed shape computed (noCollision expected computed)

/-- Exact projections of one source that are projections of another, with the
same ids: the sources are the same. -/
theorem Exactly.source_eq {source origin : SourceTable} {width : UInt64}
    {plan : List Assignment} {written : RunRows} (fits : Fits source width)
    (exact : Exactly source width written)
    (projected : Projected origin plan written)
    (ids : ∀ id, (source.get? id).isSome = (origin.get? id).isSome) :
    source = origin := by
  have forward : ∀ id payload, source.get? id = some payload →
      origin.get? id = some payload := by
    intro id payload present
    obtain ⟨_, _, low, high⟩ := fits.row present
    have found := (exact id
      { projectedValue := ⟨3 * payload.val + 7, by omega, high⟩
        partitionKey := _ }).mpr ⟨payload, present, rfl, rfl⟩
    obtain ⟨other, known, projects, _⟩ := projected id _ found
    have same : payload = other := Subtype.ext (by
      simp only at projects
      omega)
    rw [known, same]
  apply OrderedMap.eq_of_get?
  intro id payload
  constructor
  · exact forward id payload
  · intro known
    have present := ids id
    rw [known] at present
    obtain ⟨other, found⟩ := Option.isSome_iff_exists.mp present
    have same := forward id other found
    rw [known] at same
    rw [found, Option.some.inj same]

/-- At any moment the verification passes only when the source is the one that
the plan of the run was made for; and once every partition has passed, it
passes exactly then. -/
theorem runLife_verified (keepsPlans : planStore.Keeps)
    (untouched : start runName = OrderedMap.empty) (source : SourceTable)
    (steps : List LifeStep)
    (apart : AllApart sha256
      (sourcesSeen sha256 planStore runName steps (newborn start source)))
    {final : RunLife}
    (reached : runLife sha256 planStore runName steps (newborn start source) =
      final)
    {rows : UInt64} {partitions : UInt16} {workers : UInt8} {width : UInt64}
    {plan : List Assignment}
    (accepted : validateShape rows partitions workers = .ok width)
    (built : assignments rows partitions = .ok plan)
    (fits : Fits final.source width)
    (noCollision : ∀ expected,
      expectedRows final.source width = .ok expected →
        NoCollision sha256 expected
          (final.writes.destination runName).entries) :
    ∃ verification,
      verifyBusiness sha256 final.source final.writes.destination runName rows
          partitions width = .ok verification ∧
        (verification.passed rows = true →
          ∃ stored, final.stored = some stored ∧
            stored.sourceDigest = (sourceIdentity sha256 final.source).2) ∧
        ∀ stored, final.stored = some stored → stored.plan = plan →
          (∀ planned ∈ plan, planned ∈ final.writes.passed) →
            (verification.passed rows = true ↔
              stored.sourceDigest =
                (sourceIdentity sha256 final.source).2) := by
  have shape := (validateShape_eq_ok.mp accepted).1
  have isPlan := (assignments_eq_ok shape).mp built
  have lives := newborn_alive.run keepsPlans untouched apart
    (fun _ member => member)
  rw [reached] at lives
  obtain ⟨alive, current⟩ := lives
  obtain ⟨verification, verified, verdict⟩ :=
    verifyBusiness_exactly shape fits noCollision
  have honest : verification.passed rows = true →
      ∃ stored, final.stored = some stored ∧
        stored.sourceDigest = (sourceIdentity sha256 final.source).2 := by
    intro passed
    obtain ⟨total, exact⟩ := verdict.mp passed
    cases planned : final.stored with
    | none =>
        have positive := Nat.mul_pos shape.nonempty shape.positive
        rw [← shape.exact, ← total] at positive
        obtain ⟨row, member⟩ := List.exists_mem_of_length_pos positive
        have present := OrderedMap.get?_eq_some.mpr member
        obtain ⟨_, _, low, high⟩ := fits.row present
        have found := (exact row.1
          { projectedValue := ⟨3 * row.2.val + 7, by omega, high⟩
            partitionKey := _ }).mpr ⟨row.2, present, rfl, rfl⟩
        rw [alive.unplanned planned] at found
        change (start runName).get? row.1 = _ at found
        rw [untouched] at found
        cases found
    | some stored =>
        obtain ⟨origin, known, _, _, _, made⟩ := alive.planned stored planned
        have same := exact.source_eq fits made.keeps.projected (fun id => by
          rw [sourcesSeen_isSome current, sourcesSeen_isSome known])
        exact ⟨stored, rfl, by rw [made.digest, same]⟩
  refine ⟨verification, verified, honest, ?_⟩
  intro stored planned samePlan complete
  constructor
  · intro passed
    obtain ⟨other, isOther, digest⟩ := honest passed
    rw [planned] at isOther
    rw [Option.some.inj isOther, digest]
  · intro digest
    obtain ⟨origin, known, rows', partitions', width', made⟩ :=
      alive.planned stored planned
    have same : final.source = origin := by
      rw [made.digest] at digest
      exact eq_of_digest (apart _ current _ known) digest.symm
    have madePlan := made.isPlan
    rw [samePlan] at madePlan
    obtain ⟨sameRows, sameWidth⟩ :=
      IsPlan.shape_unique shape made.shape isPlan madePlan
    have exact := made.keeps.exactly made.shape made.isPlan made.total
      (by rw [samePlan]; exact complete)
    apply verdict.mpr
    rw [same, sameRows, sameWidth]
    exact ⟨made.total, exact⟩

theorem crash_source : (runLife Sha256.digest keepFirst "run" crashSteps
    (newborn (fun _ => OrderedMap.empty) fourRows)).source = fourRows := by
  have restored : (Recoveryctl.mutateSource (Recoveryctl.mutateSource fourRows
      (small 1) (small 1)).2 (small 1) ⟨-1, by decide⟩).2 = fourRows := rfl
  simp only [runLife, crashSteps, List.foldl_cons, List.foldl_nil,
    launch_source, mutate_source, newborn, restored]

theorem runLife_verified_crash :
    ∃ verification,
      verifyBusiness Sha256.digest fourRows (runLife Sha256.digest keepFirst
          "run" crashSteps (newborn (fun _ => OrderedMap.empty)
            fourRows)).writes.destination "run" 4 2 2 = .ok verification ∧
        (verification.passed 4 = true → ∃ stored : StoredPlan,
          stored.sourceDigest =
            (sourceIdentity Sha256.digest fourRows).2) := by
  have fits : Fits fourRows 2 := by
    intro row member
    revert row
    decide
  have computed : expectedRows fourRows 2 = .ok fourWritten.entries := by
    decide
  have rows : ((runLife Sha256.digest keepFirst "run" crashSteps (newborn
      (fun _ => OrderedMap.empty) fourRows)).writes.destination "run").entries =
        fourWritten.entries := by
    decide +kernel
  rw [← crash_source] at fits computed
  obtain ⟨verification, verified, honest, _⟩ :=
    runLife_verified keepFirst_keeps rfl fourRows crashSteps crash_apart rfl
      (by decide : validateShape 4 2 1 = .ok 2)
      (by decide : assignments 4 2 = .ok twoRanges) fits (by
        intro expected same _
        rw [computed] at same
        rw [rows, Except.ok.inj same])
  rw [crash_source] at verified honest
  refine ⟨verification, verified, ?_⟩
  intro passed
  obtain ⟨stored, _, digest⟩ := honest passed
  exact ⟨stored, digest⟩

end Partition
