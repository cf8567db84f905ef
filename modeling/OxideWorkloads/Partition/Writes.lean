/-
Writes of the partitions of one plan, in any order and any number of times.

A write of a partition sets the rows of its own range to values that depend on
the source only.  Ranges of different partitions are disjoint, so what one
write has set survives every other write, and the row counts that the workers
check force the source to hold every id of the plan.
-/

import OxideWorkloads.Partition.Business

namespace Partition

open Foundation
open Foundation.Checks

/-- How far the write of an attempt came. -/
inductive Fate where
  /-- The worker died before its statement. -/
  | lost
  /-- The statement ran, and the worker died before it saw the answer. -/
  | unanswered
  /-- The worker ran to its result. -/
  | answered
  deriving DecidableEq

/-- One run of a worker for a planned assignment. -/
structure Attempt where
  planned : Assignment
  stopped : Bool
  fate : Fate

/-- The destination, and the assignments whose write passed the check of the
affected rows. -/
structure WriteState where
  destination : Destination
  passed : List Assignment

/-- The worker returned the completed outcome. -/
def isCompleted : Except String TaskletOutcome → Bool
  | .ok .completed => true
  | _ => false

theorem isCompleted_iff {result : Except String TaskletOutcome} :
    isCompleted result = true ↔ result = .ok .completed := by
  cases result with
  | error error => simp [isCompleted]
  | ok outcome => cases outcome <;> simp [isCompleted]

section

variable (source : SourceTable) (runName sourceDigest : String)
  (width : UInt64)

/-- The worker that the framework starts for a planned assignment. -/
def plannedWorker (planned : Assignment) : PartitionWorker :=
  workerOf runName sourceDigest width (partitionEntry planned sourceDigest)

def Attempt.run (attempt : Attempt) (state : WriteState) : WriteState :=
  let worker := plannedWorker runName sourceDigest width attempt.planned
  let (result, written) :=
    worker.business attempt.stopped source state.destination
  match attempt.fate with
  | .lost => state
  | .unanswered => { state with destination := written }
  | .answered =>
      { destination := written
        passed :=
          if isCompleted result then attempt.planned :: state.passed
          else state.passed }

def runAttempts (attempts : List Attempt) (state : WriteState) :
    WriteState :=
  attempts.foldl
    (fun current attempt =>
      attempt.run source runName sourceDigest width current) state

end

/-! ### One write -/

/-- An id lies in the range of an assignment. -/
def Assignment.Owns (planned : Assignment) (id : Bigint) : Prop :=
  (planned.start.toNat : Int) ≤ id.val ∧ id.val ≤ planned.stop.toNat

instance (planned : Assignment) (id : Bigint) :
    Decidable (planned.Owns id) :=
  inferInstanceAs (Decidable (_ ∧ _))

theorem projectValue_val {payload value : Bigint}
    (projected : projectValue payload = some value) :
    value.val = 3 * payload.val + 7 := by
  unfold projectValue at projected
  obtain ⟨tripled, first, second⟩ := Option.bind_eq_some_iff.mp projected
  rw [Word.toBigint?_eq_some] at first second
  omega

theorem selectRange_eq_ok {source : SourceTable} {start stop : Bigint}
    {key : String} {rows : List (Bigint × ProjectedRow)} :
    selectRange source start stop key = .ok rows ↔
      List.Forall₂ (fun row selected =>
        ∃ value, projectValue row.2 = some value ∧
          (row.1, { projectedValue := value, partitionKey := key }) = selected)
        (source.entries.filter
          (fun row => start.val ≤ row.1.val ∧ row.1.val ≤ stop.val))
        rows := by
  unfold selectRange
  rw [mapM_eq_ok]
  simp only [bind_eq_ok, require_eq_ok, pure_eq_ok]

/-- The rows of an assignment's range, as a write of it sets them. -/
structure Selected (source : SourceTable) (planned : Assignment)
    (rows : List (Bigint × ProjectedRow)) : Prop where
  distinct : (rows.map Prod.fst).Nodup
  owned : ∀ row ∈ rows, planned.Owns row.1
  projects : ∀ id payload, source.get? id = some payload →
    planned.Owns id → ∃ value, value.val = 3 * payload.val + 7 ∧
      (id, { projectedValue := value, partitionKey := planned.key }) ∈ rows
  count : rows.length =
    (source.entries.filter (fun row => planned.Owns row.1)).length

theorem selected_of_select {source : SourceTable} {planned : Assignment}
    {start stop : Bigint} {rows : List (Bigint × ProjectedRow)}
    (sameStart : start.val = planned.start.toNat)
    (sameStop : stop.val = planned.stop.toNat)
    (selects : selectRange source start stop planned.key = .ok rows) :
    Selected source planned rows := by
  have owns : ∀ row : Bigint × Bigint,
      decide (start.val ≤ row.1.val ∧ row.1.val ≤ stop.val) =
        decide (planned.Owns row.1) := by
    intro row
    apply decide_eq_decide.mpr
    rw [Assignment.Owns, ← sameStart, ← sameStop]
  have related := selectRange_eq_ok.mp selects
  simp only [owns] at related
  have keys : rows.map Prod.fst = (source.entries.filter
      (fun row => planned.Owns row.1)).map Prod.fst := by
    apply map_eq_of_forall₂
    apply related.imp
    intro row selected projected
    obtain ⟨_, _, same⟩ := projected
    exact (congrArg Prod.fst same).symm
  constructor
  · rw [keys]
    exact source.keys_nodup.sublist (List.filter_sublist.map _)
  · intro row member
    have listed : row.1 ∈ rows.map Prod.fst := List.mem_map_of_mem member
    rw [keys] at listed
    obtain ⟨origin, selected, same⟩ := List.mem_map.mp listed
    rw [← same]
    exact of_decide_eq_true (List.mem_filter.mp selected).2
  · intro id payload present owned
    have member : (id, payload) ∈ source.entries.filter
        (fun row => planned.Owns row.1) :=
      List.mem_filter.mpr
        ⟨OrderedMap.get?_eq_some.mp present, decide_eq_true owned⟩
    obtain ⟨selected, inRows, value, projected, same⟩ :=
      exists_of_forall₂_left related member
    rw [← same] at inRows
    exact ⟨value, projectValue_val projected, inRows⟩
  · exact related.length_eq.symm

/-- The destination after a write of an assignment. -/
def written (runName : String) (rows : List (Bigint × ProjectedRow))
    (destination : Destination) : Destination :=
  fun name =>
    if name = runName then (destination name).insertAll rows
    else destination name

section

variable {source : SourceTable} {runName sourceDigest : String}
  {rows : UInt64} {partitions : UInt16} {width : UInt64}
  {plan : List Assignment}

/-- What the business part of a planned worker can do: nothing, or the write
of its whole range; and it completes only when the range has its rows. -/
theorem business_planned (shape : Shape rows partitions width)
    (isPlan : IsPlan partitions width plan) {planned : Assignment}
    (member : planned ∈ plan) (stopped : Bool) (destination : Destination)
    {result : Except String TaskletOutcome} {after : Destination}
    (ran : (plannedWorker runName sourceDigest width planned).business
      stopped source destination = (result, after)) :
    (after = destination ∧ result ≠ .ok .completed) ∨
      ∃ selected, Selected source planned selected ∧
        after = written runName selected destination ∧
        (result = .ok .completed → selected.length = width.toNat) := by
  have facts := isPlan.mem_iff.mp member
  have fits := (isPlan.exactCover shape).fits planned member
  have size := (isPlan.exactCover shape).equalSize planned member
  have order := (isPlan.exactCover shape).nonempty planned member
  have low : i64Min = -9223372036854775808 := rfl
  have high : i64Max = 9223372036854775807 := rfl
  have checked : (plannedWorker runName sourceDigest width
      planned).checkAssignment =
        .ok (partitionEntry planned sourceDigest).context :=
    (checkAssignment_eq_ok shape.positive).mpr ⟨rfl, ⟨facts.2.1, facts.2.2⟩, rfl⟩
  unfold PartitionWorker.business at ran
  rw [checked] at ran
  cases stopped with
  | true =>
      cases ran
      exact Or.inl ⟨rfl, by simp⟩
  | false =>
      obtain ⟨start, starts⟩ :
          ∃ start, Word.toBigint? planned.start.toNat = some start :=
        ⟨⟨planned.start.toNat, by omega, fits.1⟩,
          Word.toBigint?_eq_some.mpr rfl⟩
      obtain ⟨stop, stops⟩ :
          ∃ stop, Word.toBigint? planned.stop.toNat = some stop :=
        ⟨⟨planned.stop.toNat, by omega, fits.2⟩,
          Word.toBigint?_eq_some.mpr rfl⟩
      simp only [partitionEntry, Bool.false_eq_true, if_false, starts, stops,
        upsertRange] at ran
      cases selects : selectRange source start stop planned.key with
      | error error =>
          have same : (plannedWorker runName sourceDigest width planned).key =
              planned.key := rfl
          rw [same, selects] at ran
          cases ran
          exact Or.inl ⟨rfl, by simp⟩
      | ok selected =>
          have same : (plannedWorker runName sourceDigest width planned).key =
              planned.key := rfl
          have expected : (planned.stop - planned.start + 1).toNat =
              width.toNat := by
            have limit := planned.stop.toNat_lt
            have before : (planned.stop - planned.start).toNat =
                planned.stop.toNat - planned.start.toNat :=
              UInt64.toNat_sub_of_le _ _
                (UInt64.le_iff_toNat_le.mpr order)
            have one : (1 : UInt64).toNat = 1 := rfl
            rw [UInt64.toNat_add, before, one, Nat.mod_eq_of_lt (by omega)]
            omega
          rw [same, selects] at ran
          right
          refine ⟨selected, selected_of_select
            (Word.toBigint?_eq_some.mp starts)
            (Word.toBigint?_eq_some.mp stops) selects, ?_⟩
          simp only [pure, Except.pure, ok_bind, expected] at ran
          by_cases counted : selected.length = width.toNat
          · rw [if_pos counted] at ran
            cases ran
            exact ⟨rfl, fun _ => counted⟩
          · rw [if_neg counted] at ran
            cases ran
            exact ⟨rfl, fun completed => by cases completed⟩

/-! ### What writes leave behind -/

/-- The rows of an assignment are set. -/
def Settled (source : SourceTable) (runName : String)
    (planned : Assignment) (destination : Destination) : Prop :=
  ∀ id payload, source.get? id = some payload → planned.Owns id →
    ∃ value, value.val = 3 * payload.val + 7 ∧
      (destination runName).get? id =
        some { projectedValue := value, partitionKey := planned.key }

theorem owns_iff {planned : Assignment} {id : Bigint} (counted : 1 ≤ id.val) :
    planned.Owns id ↔ planned.Contains id.val.toNat := by
  unfold Assignment.Owns Assignment.Contains
  omega

theorem counted_of_owns (isPlan : IsPlan partitions width plan)
    {planned : Assignment} (member : planned ∈ plan) {id : Bigint}
    (owned : planned.Owns id) : 1 ≤ id.val := by
  have first := (isPlan.ranged planned member).first
  have low := owned.1
  omega

theorem eq_of_owns (shape : Shape rows partitions width)
    (isPlan : IsPlan partitions width plan) {first second : Assignment}
    (inFirst : first ∈ plan) (inSecond : second ∈ plan) {id : Bigint}
    (firstOwns : first.Owns id) (secondOwns : second.Owns id) :
    first = second := by
  have counted := counted_of_owns isPlan inFirst firstOwns
  apply isPlan.eq_of_index inFirst inSecond
  rw [← UInt16.toNat_inj]
  exact EqualBlocks.within_unique shape.positive
    ((isPlan.contains_iff inFirst _).mp ((owns_iff counted).mp firstOwns))
    ((isPlan.contains_iff inSecond _).mp ((owns_iff counted).mp secondOwns))

theorem written_settles {planned : Assignment} {destination : Destination}
    {selected : List (Bigint × ProjectedRow)}
    (selects : Selected source planned selected) :
    Settled source runName planned
      (written runName selected destination) := by
  intro id payload present owned
  obtain ⟨value, projects, member⟩ := selects.projects id payload present owned
  refine ⟨value, projects, ?_⟩
  rw [written, if_pos rfl]
  exact OrderedMap.get?_insertAll_of_mem selects.distinct member

/-- A later write of any planned range keeps what an earlier one has set: it
is the same range, or it does not touch it. -/
theorem written_keeps (shape : Shape rows partitions width)
    (isPlan : IsPlan partitions width plan) {planned other : Assignment}
    (member : planned ∈ plan) (otherMember : other ∈ plan)
    {destination : Destination} {selected : List (Bigint × ProjectedRow)}
    (selects : Selected source other selected)
    (settled : Settled source runName planned destination) :
    Settled source runName planned
      (written runName selected destination) := by
  by_cases same : planned = other
  · rw [same]
    exact written_settles selects
  · intro id payload present owned
    obtain ⟨value, projects, found⟩ := settled id payload present owned
    refine ⟨value, projects, ?_⟩
    rw [written, if_pos rfl, ← found]
    apply OrderedMap.get?_insertAll_of_notMem
    intro row listed touched
    have otherOwns := selects.owned row listed
    rw [touched] at otherOwns
    exact same (eq_of_owns shape isPlan member otherMember owned otherOwns)

/-- What holds after any number of attempts: the passed assignments have all
their rows, and these are set; the rows of the other runs are untouched. -/
structure Progress (source : SourceTable) (runName : String)
    (width : UInt64) (plan : List Assignment) (start : Destination)
    (state : WriteState) : Prop where
  planned : ∀ assignment ∈ state.passed, assignment ∈ plan
  counted : ∀ assignment ∈ state.passed,
    (source.entries.filter (fun row => assignment.Owns row.1)).length =
      width.toNat
  settled : ∀ assignment ∈ state.passed,
    Settled source runName assignment state.destination
  framed : ∀ name, name ≠ runName → state.destination name = start name

theorem Progress.write (shape : Shape rows partitions width)
    (isPlan : IsPlan partitions width plan) {start : Destination}
    {state : WriteState}
    (progress : Progress source runName width plan start state)
    {assignment : Assignment} (member : assignment ∈ plan)
    {selected : List (Bigint × ProjectedRow)}
    (selects : Selected source assignment selected) :
    Progress source runName width plan start
      { state with
        destination := written runName selected state.destination } := by
  constructor
  · exact progress.planned
  · exact progress.counted
  · intro passed inPassed
    exact written_keeps shape isPlan (progress.planned passed inPassed)
      member selects (progress.settled passed inPassed)
  · intro name other
    rw [← progress.framed name other]
    exact if_neg other

theorem Progress.pass {start : Destination} {state : WriteState}
    (progress : Progress source runName width plan start state)
    {assignment : Assignment} (member : assignment ∈ plan)
    (counted : (source.entries.filter
      (fun row => assignment.Owns row.1)).length = width.toNat)
    (settled : Settled source runName assignment state.destination) :
    Progress source runName width plan start
      { state with passed := assignment :: state.passed } := by
  constructor
  · exact List.forall_mem_cons.mpr ⟨member, progress.planned⟩
  · exact List.forall_mem_cons.mpr ⟨counted, progress.counted⟩
  · exact List.forall_mem_cons.mpr ⟨settled, progress.settled⟩
  · exact progress.framed

/-- One attempt keeps the progress. -/
theorem Progress.attempt (shape : Shape rows partitions width)
    (isPlan : IsPlan partitions width plan) {start : Destination}
    {state : WriteState}
    (progress : Progress source runName width plan start state)
    {attempt : Attempt} (member : attempt.planned ∈ plan) :
    Progress source runName width plan start
      (attempt.run source runName sourceDigest width state) := by
  cases ran : (plannedWorker runName sourceDigest width
      attempt.planned).business attempt.stopped source state.destination with
  | mk result after =>
      have effect := business_planned shape isPlan member _ _ ran
      unfold Attempt.run
      simp only [ran]
      cases attempt.fate with
      | lost => exact progress
      | unanswered =>
          rcases effect with ⟨same, _⟩ | ⟨selected, selects, same, _⟩
          · rw [same]
            exact progress
          · rw [same]
            exact progress.write shape isPlan member selects
      | answered =>
          rcases effect with
            ⟨same, incomplete⟩ | ⟨selected, selects, same, count⟩
          · rw [ne_eq, ← isCompleted_iff] at incomplete
            simp only [same, if_neg incomplete]
            exact progress
          · have wrote := progress.write shape isPlan member selects
            simp only [same]
            by_cases completed : isCompleted result = true
            · have full := count (isCompleted_iff.mp completed)
              rw [selects.count] at full
              simp only [if_pos completed]
              exact wrote.pass member full (written_settles selects)
            · simp only [if_neg completed]
              exact wrote

/-- Any sequence of attempts keeps the progress. -/
theorem Progress.attempts (shape : Shape rows partitions width)
    (isPlan : IsPlan partitions width plan) {start : Destination}
    {attempts : List Attempt} {state : WriteState}
    (progress : Progress source runName width plan start state)
    (members : ∀ attempt ∈ attempts, attempt.planned ∈ plan) :
    Progress source runName width plan start
      (runAttempts source runName sourceDigest width attempts state) := by
  induction attempts generalizing state with
  | nil => exact progress
  | cons attempt rest ih =>
      have parts := List.forall_mem_cons.mp members
      exact ih (progress.attempt shape isPlan parts.1) parts.2

/-! ### Complete runs -/

theorem ids_nodup {α : Type} (table : OrderedMap Bigint α) :
    (table.entries.map (fun row => row.1.val)).Nodup := by
  have distinct := table.keys_nodup.map
    (fun _ _ same => Subtype.ext same :
      Function.Injective (Subtype.val : Bigint → Int))
  rw [List.map_map] at distinct
  exact distinct

theorem mem_source_ids {number : Int} :
    number ∈ source.entries.map (fun row => row.1.val) ↔
      ∃ id : Bigint, id.val = number ∧ (source.get? id).isSome := by
  rw [List.mem_map]
  constructor
  · intro listed
    obtain ⟨row, member, same⟩ := listed
    have present : source.get? row.1 = some row.2 :=
      OrderedMap.get?_eq_some.mpr member
    refine ⟨row.1, same, ?_⟩
    rw [present]
    rfl
  · intro present
    obtain ⟨id, same, found⟩ := present
    obtain ⟨payload, value⟩ := Option.isSome_iff_exists.mp found
    exact ⟨(id, payload), OrderedMap.get?_eq_some.mp value, same⟩

/-- A source with as many rows as the plan, whose ranges all hold their rows,
has exactly the ids of the plan. -/
theorem source_ids_of_counts (shape : Shape rows partitions width)
    (isPlan : IsPlan partitions width plan)
    (total : source.entries.length = rows.toNat)
    (counted : ∀ planned ∈ plan,
      (source.entries.filter (fun row => planned.Owns row.1)).length =
        width.toNat) (id : Bigint) :
    (source.get? id).isSome ↔ 1 ≤ id.val ∧ id.val ≤ rows.toNat := by
  have distinct := ids_nodup source
  have present : ∀ number, 1 ≤ number → number ≤ (rows.toNat : Int) →
      number ∈ source.entries.map (fun row => row.1.val) := by
    intro number low high
    obtain ⟨planned, member, contains⟩ :=
      (isPlan.union_iff shape number.toNat).mpr (by omega)
    have size := (isPlan.exactCover shape).equalSize planned member
    have inside : (planned.start.toNat : Int) ≤ number ∧
        number ≤ planned.stop.toNat := by
      unfold Assignment.Contains at contains
      omega
    apply EqualBlocks.holds_of_count distinct ?_ number inside.1 inside.2
    rw [List.filter_map, List.length_map]
    have full := counted planned member
    have same : (fun row : Bigint × Bigint => decide (planned.Owns row.1)) =
        (fun number : Int => decide ((planned.start.toNat : Int) ≤ number ∧
          number ≤ planned.stop.toNat)) ∘ fun row => row.1.val := rfl
    rw [← same, full]
    omega
  have bounded := EqualBlocks.bounded_of_length distinct present (by
    rw [List.length_map, total]
    omega)
  constructor
  · intro found
    exact bounded id.val (mem_source_ids.mpr ⟨id, rfl, found⟩)
  · intro range
    obtain ⟨other, same, found⟩ :=
      mem_source_ids.mp (present id.val range.1 range.2)
    rw [← Subtype.ext same]
    exact found

end

/-- Whatever the order and the repetitions of the attempts, the rows of the
other runs stay as they were; and once every partition has passed its check,
the source has exactly the ids of the plan, and the rows of the run are the
projections of the source, each with the key of its owner. -/
theorem runAttempts_complete {rows : UInt64} {partitions : UInt16}
    {workers : UInt8} {width : UInt64}
    (accepted : validateShape rows partitions workers = .ok width)
    {plan : List Assignment} (built : assignments rows partitions = .ok plan)
    (source : SourceTable) (total : source.entries.length = rows.toNat)
    (runName sourceDigest : String) (start : Destination)
    (attempts : List Attempt)
    (members : ∀ attempt ∈ attempts, attempt.planned ∈ plan) :
    let final := runAttempts source runName sourceDigest width attempts
      { destination := start, passed := [] }
    (∀ name, name ≠ runName → final.destination name = start name) ∧
      ((∀ index : UInt16, index < partitions →
          ∃ planned ∈ final.passed, planned.index = index) →
        (∀ id : Bigint, (source.get? id).isSome ↔
          1 ≤ id.val ∧ id.val ≤ rows.toNat) ∧
        ∀ id payload, source.get? id = some payload →
          ∃ owner value, ownerIndex width id = .ok owner ∧
            value.val = 3 * payload.val + 7 ∧
            (final.destination runName).get? id =
              some { projectedValue := value
                     partitionKey := partitionKey owner }) := by
  intro final
  have shape := (validateShape_eq_ok.mp accepted).1
  have isPlan := (assignments_eq_ok shape).mp built
  have fresh : Progress source runName width plan start
      { destination := start, passed := [] } :=
    ⟨fun _ none => absurd none List.not_mem_nil,
      fun _ none => absurd none List.not_mem_nil,
      fun _ none => absurd none List.not_mem_nil, fun _ _ => rfl⟩
  have progress : Progress source runName width plan start final :=
    fresh.attempts shape isPlan members
  refine ⟨progress.framed, ?_⟩
  intro complete
  have all : ∀ planned ∈ plan, planned ∈ final.passed := by
    intro planned member
    obtain ⟨passed, inPassed, same⟩ := complete planned.index
      (UInt16.lt_iff_toNat_lt.mpr (isPlan.below member))
    have equal := isPlan.eq_of_index (progress.planned passed inPassed)
      member same
    rw [← equal]
    exact inPassed
  have ids := source_ids_of_counts shape isPlan total
    (fun planned member => progress.counted planned (all planned member))
  refine ⟨ids, ?_⟩
  intro id payload present
  have range := (ids id).mp (Option.isSome_iff_exists.mpr ⟨payload, present⟩)
  obtain ⟨owner, member, owns, only⟩ :=
    isPlan.owner shape range.1 range.2
  have owned := (owns_iff range.1).mpr ((only owner member).mpr rfl)
  obtain ⟨value, projects, found⟩ :=
    progress.settled owner (all owner member) id payload present owned
  refine ⟨owner.index, value, owns, projects, ?_⟩
  rw [found, isPlan.keyed owner member]

def fourRows : SourceTable :=
  { entries := [(small 1, small 10), (small 2, small 20), (small 3, small 30),
      (small 4, small 5)]
    sorted := by decide }

def twoRanges : List Assignment :=
  [{ index := 0, key := "partition-0000", start := 1, stop := 2 },
    { index := 1, key := "partition-0001", start := 3, stop := 4 }]

/-- Both partitions once, the later one first. -/
def backwards : List Attempt :=
  twoRanges.reverse.map
    (fun planned => { planned, stopped := false, fate := .answered })

theorem runAttempts_complete_four :
    (∀ index : UInt16, index < 2 → ∃ planned ∈ (runAttempts fourRows "run"
        "digest" 2 backwards
        { destination := fun _ => OrderedMap.empty
          passed := [] }).passed, planned.index = index) ∧
      ∀ id : Bigint, (fourRows.get? id).isSome ↔
        1 ≤ id.val ∧ id.val ≤ (4 : UInt64).toNat := by
  have built : assignments 4 2 = .ok twoRanges := by decide
  have passed : (runAttempts fourRows "run" "digest" 2 backwards
      { destination := fun _ => OrderedMap.empty
        passed := [] }).passed = twoRanges := by decide
  have complete : ∀ index : UInt16, index < 2 →
      ∃ planned ∈ twoRanges, planned.index = index := by
    intro index below
    have shape := (validateShape_eq_ok.mp
      (by decide : validateShape 4 2 1 = .ok 2)).1
    exact ((assignments_eq_ok shape).mp built).exists_index
      (UInt16.lt_iff_toNat_lt.mp below)
  rw [← passed] at complete
  refine ⟨complete, ?_⟩
  exact ((runAttempts_complete (by decide : validateShape 4 2 1 = .ok 2) built
    fourRows rfl "run" "digest" (fun _ => OrderedMap.empty) backwards
    (by decide)).2 complete).1

end Partition
