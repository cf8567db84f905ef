/-
The life of a run: launches whose workers may die at any point, changes of the
source between launches, and relaunches under any arguments.

The framework is a parameter: the plan whose entries it gives to the workers of
a launch, of the plan that it has stored and the one that the launch offers.  It
is documented to keep the stored one, by the name of the run.  A worker compares
the digest in its entry with the digest of its own launch, so a launch over a
changed source writes nothing.
-/

import OxideWorkloads.Partition.Recovery
import OxideWorkloads.Partition.Writes

namespace Partition

open Foundation
open Foundation.Checks
open Foundation.LineLog (Bytes)

/-! ### The life of a run -/

/-- The plan of the first launch, and the digest in its entries. -/
structure StoredPlan where
  plan : List Assignment
  sourceDigest : String

/-- One run of a worker, for the stored entry at a position. -/
structure WorkerRun where
  position : Nat
  stopped : Bool
  fate : Fate

/-- The plan that a launch goes by, from the stored one and the offered one. -/
abbrev PlanStore := Option StoredPlan → StoredPlan → StoredPlan

/-- The first plan offered is stored, and kept. -/
structure PlanStore.Keeps (planStore : PlanStore) : Prop where
  first : ∀ offered, planStore none offered = offered
  later : ∀ earlier offered, planStore (some earlier) offered = earlier

structure RunLife where
  source : SourceTable
  stored : Option StoredPlan
  writes : WriteState

/-- What happens to a run: a launch with its arguments and the worker runs it
comes to, or a change of a source row by the recovery tool. -/
inductive LifeStep where
  | launch (rows : UInt64) (partitions : UInt16) (workers : UInt8)
      (runs : List WorkerRun)
  | mutate (sourceId delta : Bigint)

section

variable (sha256 : Bytes → Vector UInt8 32) (planStore : PlanStore)
  (runName : String)

/-- A worker of a launch, for the stored entry of an assignment. -/
def storedWorker (sourceDigest : String) (width : UInt64)
    (stored : StoredPlan) (planned : Assignment) : PartitionWorker :=
  workerOf runName sourceDigest width
    (partitionEntry planned stored.sourceDigest)

def WorkerRun.run (source : SourceTable) (sourceDigest : String)
    (width : UInt64) (stored : StoredPlan) (state : WriteState)
    (work : WorkerRun) : WriteState :=
  match stored.plan[work.position]? with
  | none => state
  | some planned =>
      let (result, written) :=
        (storedWorker runName sourceDigest width stored planned).business
          work.stopped source state.destination
      match work.fate with
      | .lost => state
      | .unanswered => { state with destination := written }
      | .answered =>
          { destination := written
            passed :=
              if isCompleted result then planned :: state.passed
              else state.passed }

/-- A launch, up to its verification. -/
def launch (rows : UInt64) (partitions : UInt16) (workers : UInt8)
    (runs : List WorkerRun) (life : RunLife) : Except String RunLife := do
  let width ← validateShape rows partitions workers
  let (sourceRows, sourceDigest) := sourceIdentity sha256 life.source
  ensure (sourceRows = rows.toNat)
    s!"source contains {sourceRows} rows, expected {rows}"
  let plan ← assignments rows partitions
  let stored := planStore life.stored { plan, sourceDigest }
  return {
    source := life.source
    stored := some stored
    writes := runs.foldl
      (WorkerRun.run runName life.source sourceDigest width stored)
      life.writes }

/-- A step; one that fails changes nothing. -/
def LifeStep.run (life : RunLife) : LifeStep → RunLife
  | .launch rows partitions workers runs =>
      (Partition.launch sha256 planStore runName rows partitions workers runs
        life).toOption.getD life
  | .mutate sourceId delta =>
      { life with
        source := (Recoveryctl.mutateSource life.source sourceId delta).2 }

def runLife (steps : List LifeStep) (life : RunLife) : RunLife :=
  steps.foldl (LifeStep.run sha256 planStore runName) life

/-- The sources that a run has seen in its life, the first one included. -/
def sourcesSeen : List LifeStep → RunLife → List SourceTable
  | [], life => [life.source]
  | step :: rest, life =>
      life.source :: sourcesSeen rest (step.run sha256 planStore runName life)

end

/-! ### One worker run -/

variable {sha256 : Bytes → Vector UInt8 32} {planStore : PlanStore}
variable {runName : String}
variable {source origin : SourceTable} {rows : UInt64} {partitions : UInt16}
variable {width : UInt64} {plan : List Assignment}

/-- Every row is a projection of the row of its id, by the owner of the id. -/
def Projected (source : SourceTable) (plan : List Assignment)
    (written : RunRows) : Prop :=
  ∀ id row, written.get? id = some row →
    ∃ payload, source.get? id = some payload ∧
      row.projectedValue.val = 3 * payload.val + 7 ∧
      ∃ planned ∈ plan, planned.Owns id ∧ row.partitionKey = planned.key

theorem IsRange.width_eq {other : UInt64} {index : UInt16}
    {start stop : UInt64} (range : IsRange width index start stop)
    (again : IsRange other index start stop) : width = other := by
  have first := range.first.symm.trans again.first
  have last := range.last.symm.trans again.last
  rw [← UInt64.toNat_inj]
  omega

/-- A worker of a launch with another digest or another width fails its check,
and writes nothing. -/
theorem business_foreign {sourceDigest : String} {other : UInt64}
    {stored : StoredPlan} {planned : Assignment} {stopped : Bool}
    {destination : Destination} (positive : 0 < other.toNat)
    (range : IsRange width planned.index planned.start planned.stop)
    (foreign : ¬(stored.sourceDigest = sourceDigest ∧ other = width)) :
    ∃ error, (storedWorker runName sourceDigest other stored
        planned).business stopped source destination =
      (.error error, destination) := by
  have refused : ∀ payload, (storedWorker runName sourceDigest other stored
      planned).checkAssignment ≠ .ok payload := by
    intro payload accepted
    obtain ⟨_, complete, digest⟩ := (checkAssignment_eq_ok positive).mp accepted
    exact foreign ⟨digest, (IsRange.width_eq range complete.ranged).symm⟩
  unfold PartitionWorker.business
  cases checked : (storedWorker runName sourceDigest other stored
      planned).checkAssignment with
  | error error => exact ⟨error, rfl⟩
  | ok payload => exact absurd checked (refused payload)

/-- A selected row is the projection of a source row. -/
theorem Selected.from_source {planned : Assignment}
    {selected : List (Bigint × ProjectedRow)}
    (selects : Selected source planned selected)
    {row : Bigint × ProjectedRow} (member : row ∈ selected) :
    ∃ payload, source.get? row.1 = some payload ∧
      row.2.projectedValue.val = 3 * payload.val + 7 ∧
      row.2.partitionKey = planned.key := by
  let owned := source.entries.filter (fun row => planned.Owns row.1)
  have listed : (owned.map Prod.fst) ⊆ selected.map Prod.fst := by
    intro id inOwned
    obtain ⟨origin, isOwned, same⟩ := List.mem_map.mp inOwned
    obtain ⟨inSource, owns⟩ := List.mem_filter.mp isOwned
    obtain ⟨value, _, present⟩ := selects.projects origin.1 origin.2
      (OrderedMap.get?_eq_some.mpr inSource) (of_decide_eq_true owns)
    rw [← same]
    exact List.mem_map_of_mem (f := Prod.fst) present
  have nodup : (owned.map Prod.fst).Nodup :=
    source.keys_nodup.sublist (List.filter_sublist.map _)
  have all : (owned.map Prod.fst).Perm (selected.map Prod.fst) := by
    refine (List.subperm_of_subset nodup listed).perm_of_length_le ?_
    rw [List.length_map, List.length_map, selects.count]
  have inOwned := all.mem_iff.mpr
    (List.mem_map_of_mem (f := Prod.fst) member)
  obtain ⟨origin, isOwned, same⟩ := List.mem_map.mp inOwned
  obtain ⟨inSource, owns⟩ := List.mem_filter.mp isOwned
  have found := OrderedMap.get?_eq_some.mpr inSource
  obtain ⟨value, projects, present⟩ := selects.projects origin.1 origin.2
    found (of_decide_eq_true owns)
  have sameRow := List.inj_on_of_nodup_map selects.distinct member present
    same.symm
  rw [sameRow]
  exact ⟨origin.2, found, projects, rfl⟩

theorem Projected.write {planned : Assignment} (member : planned ∈ plan)
    {selected : List (Bigint × ProjectedRow)} {destination : Destination}
    (selects : Selected source planned selected)
    (projected : Projected source plan (destination runName)) :
    Projected source plan (written runName selected destination runName) := by
  intro id row found
  rw [written, if_pos rfl] at found
  by_cases touched : ∃ entry ∈ selected, entry.1 = id
  · obtain ⟨entry, inSelected, same⟩ := touched
    have now : (written runName selected destination runName).get? id =
        some entry.2 := by
      rw [written, if_pos rfl, ← same]
      exact OrderedMap.get?_insertAll_of_mem selects.distinct inSelected
    rw [written, if_pos rfl, found] at now
    obtain ⟨payload, present, projects, key⟩ := selects.from_source inSelected
    have owns := selects.owned entry inSelected
    rw [same] at present owns
    rw [Option.some.inj now]
    exact ⟨payload, present, projects, planned, member, owns, key⟩
  · rw [OrderedMap.get?_insertAll_of_notMem] at found
    · exact projected id row found
    · intro entry inSelected same
      exact touched ⟨entry, inSelected, same⟩

/-- What a launch over the source of the plan keeps. -/
structure KeepsSource (runName : String) (source : SourceTable)
    (width : UInt64) (plan : List Assignment) (start : Destination)
    (state : WriteState) : Prop where
  progress : Progress source runName width plan start state
  projected : Projected source plan (state.destination runName)

theorem KeepsSource.attempt {sourceDigest : String} {start : Destination}
    {state : WriteState} (shape : Shape rows partitions width)
    (isPlan : IsPlan partitions width plan)
    (keeps : KeepsSource runName source width plan start state)
    {attempt : Attempt} (member : attempt.planned ∈ plan) :
    KeepsSource runName source width plan start
      (attempt.run source runName sourceDigest width state) where
  progress := keeps.progress.attempt shape isPlan member
  projected := by
    cases ran : (plannedWorker runName sourceDigest width
        attempt.planned).business attempt.stopped source state.destination with
    | mk result after =>
        have effect : Projected source plan (after runName) := by
          rcases business_planned shape isPlan member _ _ ran with
            unchanged | wrote
          · rw [unchanged.1]
            exact keeps.projected
          · obtain ⟨selected, selects, same, _⟩ := wrote
            rw [same]
            exact keeps.projected.write member selects
        unfold Attempt.run
        simp only [ran]
        cases attempt.fate with
        | lost => exact keeps.projected
        | unanswered => exact effect
        | answered => exact effect

/-- A worker run of any launch: over the source of the plan, or one that the
check of the entry turns away. -/
theorem KeepsSource.work {sourceDigest : String} {other : UInt64}
    {stored : StoredPlan} {start : Destination} {state : WriteState}
    (shape : Shape rows partitions width)
    (isPlan : IsPlan partitions width stored.plan)
    (positive : 0 < other.toNat)
    (same : stored.sourceDigest = sourceDigest → source = origin)
    (keeps : KeepsSource runName origin width stored.plan start state)
    (work : WorkerRun) :
    KeepsSource runName origin width stored.plan start
      (work.run runName source sourceDigest other stored state) := by
  unfold WorkerRun.run
  cases found : stored.plan[work.position]? with
  | none => exact keeps
  | some planned =>
      have member := List.mem_of_getElem? found
      by_cases own : stored.sourceDigest = sourceDigest ∧ other = width
      · let attempt : Attempt :=
          { planned, stopped := work.stopped, fate := work.fate }
        have ran : KeepsSource runName origin width stored.plan start
            (attempt.run origin runName sourceDigest width state) :=
          keeps.attempt shape isPlan member
        rw [same own.1, own.2]
        unfold storedWorker
        rw [own.1]
        exact ran
      · obtain ⟨error, refused⟩ := @business_foreign runName source width
          sourceDigest other stored planned work.stopped state.destination
          positive (isPlan.ranged planned member) own
        dsimp only
        rw [refused]
        cases work.fate with
        | lost => exact keeps
        | unanswered => exact keeps
        | answered => exact keeps

theorem KeepsSource.works {sourceDigest : String} {other : UInt64}
    {stored : StoredPlan} {start : Destination} {state : WriteState}
    (shape : Shape rows partitions width)
    (isPlan : IsPlan partitions width stored.plan)
    (positive : 0 < other.toNat)
    (same : stored.sourceDigest = sourceDigest → source = origin)
    (keeps : KeepsSource runName origin width stored.plan start state)
    (works : List WorkerRun) :
    KeepsSource runName origin width stored.plan start
      (works.foldl (WorkerRun.run runName source sourceDigest other stored)
        state) := by
  induction works generalizing state with
  | nil => exact keeps
  | cons work rest ih =>
      exact ih (keeps.work shape isPlan positive same work)

/-! ### A life -/

/-- The stored plan is the plan of a source, and what has been written of it
keeps to that source. -/
structure MadeFor (sha256 : Bytes → Vector UInt8 32) (runName : String)
    (start : Destination) (origin : SourceTable) (rows : UInt64)
    (partitions : UInt16) (width : UInt64) (stored : StoredPlan)
    (writes : WriteState) : Prop where
  shape : Shape rows partitions width
  isPlan : IsPlan partitions width stored.plan
  total : origin.entries.length = rows.toNat
  digest : stored.sourceDigest = (sourceIdentity sha256 origin).2
  keeps : KeepsSource runName origin width stored.plan start writes

/-- Before its first launch a run has written nothing; from then on its plan is
that of one of the sources it has seen. -/
structure Alive (sha256 : Bytes → Vector UInt8 32) (runName : String)
    (start : Destination) (seen : List SourceTable) (life : RunLife) :
    Prop where
  unplanned : life.stored = none →
    life.writes = { destination := start, passed := [] }
  planned : ∀ stored, life.stored = some stored →
    ∃ origin ∈ seen, ∃ rows partitions width,
      MadeFor sha256 runName start origin rows partitions width stored
        life.writes

/-- No two of these sources are hashed alike. -/
def AllApart (sha256 : Bytes → Vector UInt8 32)
    (seen : List SourceTable) : Prop :=
  ∀ first ∈ seen, ∀ second ∈ seen, ApartSources sha256 first second

variable {start : Destination} {seen : List SourceTable}

theorem launch_eq_ok {workers : UInt8} {runs : List WorkerRun}
    {life after : RunLife}
    (launched : launch sha256 planStore runName rows partitions workers runs
      life = .ok after) :
    ∃ width plan, Shape rows partitions width ∧
      IsPlan partitions width plan ∧
      life.source.entries.length = rows.toNat ∧
      after.source = life.source ∧
      after.stored = some (planStore life.stored
        { plan, sourceDigest := (sourceIdentity sha256 life.source).2 }) ∧
      after.writes = runs.foldl (WorkerRun.run runName life.source
        (sourceIdentity sha256 life.source).2 width (planStore life.stored
          { plan, sourceDigest := (sourceIdentity sha256 life.source).2 }))
        life.writes := by
  unfold launch at launched
  simp only [bind_eq_ok, ensure_eq_ok, pure_eq_ok, exists_const] at launched
  obtain ⟨width, accepted, total, plan, built, isAfter⟩ := launched
  have shape := (validateShape_eq_ok.mp accepted).1
  refine ⟨width, plan, shape, (assignments_eq_ok shape).mp built, total, ?_⟩
  rw [← isAfter]
  exact ⟨rfl, rfl, rfl⟩

theorem KeepsSource.fresh (untouched : start runName = OrderedMap.empty) :
    KeepsSource runName origin width plan start
      { destination := start, passed := [] } where
  progress :=
    { planned := fun _ absent => absurd absent List.not_mem_nil
      counted := fun _ absent => absurd absent List.not_mem_nil
      settled := fun _ absent => absurd absent List.not_mem_nil
      framed := fun _ _ => rfl }
  projected := by
    intro id row found
    change (start runName).get? id = some row at found
    rw [untouched, OrderedMap.get?_empty] at found
    cases found

theorem Alive.launch {workers : UInt8} {runs : List WorkerRun}
    {life after : RunLife} (keepsPlans : planStore.Keeps)
    (untouched : start runName = OrderedMap.empty)
    (apart : AllApart sha256 seen) (current : life.source ∈ seen)
    (alive : Alive sha256 runName start seen life)
    (launched : launch sha256 planStore runName rows partitions workers runs
      life = .ok after) :
    Alive sha256 runName start seen after := by
  obtain ⟨width, plan, shape, isPlan, total, sameSource, isStored, isWrites⟩ :=
    launch_eq_ok launched
  constructor
  · intro none
    rw [isStored] at none
    cases none
  · intro stored here
    rw [isStored] at here
    rw [isWrites, Option.some.inj here]
    cases before : life.stored with
    | none =>
        rw [before, keepsPlans.first] at here
        rw [← Option.some.inj here, alive.unplanned before]
        refine ⟨life.source, current, rows, partitions, width, shape, isPlan,
          total, rfl, ?_⟩
        exact KeepsSource.works shape isPlan shape.positive (fun _ => rfl)
          (KeepsSource.fresh untouched) runs
    | some earlier =>
        rw [before, keepsPlans.later] at here
        rw [← Option.some.inj here]
        obtain ⟨origin, known, rows', partitions', width', made⟩ :=
          alive.planned earlier before
        refine ⟨origin, known, rows', partitions', width', made.shape,
          made.isPlan, made.total, made.digest, ?_⟩
        refine made.keeps.works made.shape made.isPlan shape.positive ?_ runs
        intro same
        rw [made.digest] at same
        exact eq_of_digest (apart _ current _ known) same.symm

theorem Alive.step {life : RunLife} {step : LifeStep}
    (keepsPlans : planStore.Keeps)
    (untouched : start runName = OrderedMap.empty)
    (apart : AllApart sha256 seen) (current : life.source ∈ seen)
    (alive : Alive sha256 runName start seen life) :
    Alive sha256 runName start seen
      (step.run sha256 planStore runName life) := by
  cases step with
  | launch rows partitions workers runs =>
      rw [LifeStep.run]
      cases launched : Partition.launch sha256 planStore runName rows
          partitions workers runs life with
      | error error => exact alive
      | ok after =>
          exact alive.launch keepsPlans untouched apart current launched
  | mutate sourceId delta => exact ⟨alive.unplanned, alive.planned⟩

theorem Alive.run {steps : List LifeStep} {life : RunLife}
    (keepsPlans : planStore.Keeps)
    (untouched : start runName = OrderedMap.empty)
    (apart : AllApart sha256 seen)
    (within : ∀ source ∈ sourcesSeen sha256 planStore runName steps life,
      source ∈ seen)
    (alive : Alive sha256 runName start seen life) :
    Alive sha256 runName start seen
        (runLife sha256 planStore runName steps life) ∧
      (runLife sha256 planStore runName steps life).source ∈ seen := by
  induction steps generalizing life with
  | nil => exact ⟨alive, within _ List.mem_cons_self⟩
  | cons step rest ih =>
      have current := within _ List.mem_cons_self
      exact ih (fun source member =>
          within source (List.mem_cons_of_mem _ member))
        (alive.step keepsPlans untouched apart current)

/-! ### A complete run -/

theorem IsPlan.key_of_owns (shape : Shape rows partitions width)
    (isPlan : IsPlan partitions width plan) {planned : Assignment}
    (member : planned ∈ plan) {id : Bigint} (owns : planned.Owns id) :
    planned.key = partitionKey
      (UInt16.ofNat ((id.val.toNat - 1) / width.toNat)) := by
  have counted := counted_of_owns isPlan member owns
  have within := (isPlan.contains_iff member _).mp ((owns_iff counted).mp owns)
  rw [EqualBlocks.within_iff shape.positive (by omega)] at within
  rw [isPlan.keyed planned member, within, UInt16.ofNat_toNat]

/-- Once every partition has passed its check, the rows are exactly the
projections of the source. -/
theorem KeepsSource.exactly {state : WriteState}
    (shape : Shape rows partitions width)
    (isPlan : IsPlan partitions width plan)
    (total : source.entries.length = rows.toNat)
    (keeps : KeepsSource runName source width plan start state)
    (complete : ∀ planned ∈ plan, planned ∈ state.passed) :
    Exactly source width (state.destination runName) := by
  have ids := source_ids_of_counts shape isPlan total
    (fun planned member => keeps.progress.counted planned
      (complete planned member))
  intro id row
  constructor
  · intro found
    obtain ⟨payload, present, projects, planned, member, owns, key⟩ :=
      keeps.projected id row found
    rw [isPlan.key_of_owns shape member owns] at key
    exact ⟨payload, present, projects, key⟩
  · intro expected
    obtain ⟨payload, present, projects, key⟩ := expected
    have range := (ids id).mp (Option.isSome_iff_exists.mpr ⟨payload, present⟩)
    obtain ⟨owner, member, _, only⟩ := isPlan.owner shape range.1 range.2
    have owns := (owns_iff range.1).mpr ((only owner member).mpr rfl)
    obtain ⟨value, settles, found⟩ := keeps.progress.settled owner
      (complete owner member) id payload present owns
    rw [found, isPlan.key_of_owns shape member owns, ← key]
    have sameValue : value = row.projectedValue :=
      Subtype.ext (settles.trans projects.symm)
    rw [sameValue]

end Partition
