/-
The plan of an accepted shape covers the rows exactly, and the places that
compute a range again agree with it.
-/

import OxideWorkloads.Partition.Plan

namespace Partition

open Foundation
open Foundation.Checks

/-! ### The indices of a plan -/

theorem indices_getElem? {partitions : UInt16} {position : Nat}
    {index : UInt16} :
    (indices partitions)[position]? = some index ↔
      index.toNat = position ∧ position < partitions.toNat := by
  have limit := partitions.toNat_lt
  unfold indices
  rw [List.getElem?_map, Option.map_eq_some_iff]
  constructor
  · intro found
    obtain ⟨number, listed, same⟩ := found
    obtain ⟨below, value⟩ := List.getElem?_eq_some_iff.mp listed
    rw [List.length_range] at below
    rw [List.getElem_range] at value
    rw [← same, UInt16.toNat_ofNat', Nat.mod_eq_of_lt (by omega)]
    exact ⟨value.symm, by omega⟩
  · intro same
    refine ⟨position, List.getElem?_range same.2, ?_⟩
    rw [← same.1, UInt16.ofNat_toNat]

theorem mem_indices {partitions index : UInt16} :
    index ∈ indices partitions ↔ index.toNat < partitions.toNat := by
  rw [List.mem_iff_getElem?]
  constructor
  · intro found
    obtain ⟨position, listed⟩ := found
    have placed := indices_getElem?.mp listed
    rw [placed.1]
    exact placed.2
  · intro below
    exact ⟨index.toNat, indices_getElem?.mpr ⟨rfl, below⟩⟩

theorem indices_nodup (partitions : UInt16) : (indices partitions).Nodup := by
  apply List.nodup_iff_getElem?_ne_getElem?.mpr
  intro first second before below same
  rw [List.getElem?_eq_getElem below] at same
  have early := indices_getElem?.mp same
  have late := indices_getElem?.mp (List.getElem?_eq_getElem below)
  omega

theorem partitionKey_injective {first second : UInt16}
    (same : partitionKey first = partitionKey second) : first = second := by
  have texts := congrArg String.toList same
  unfold partitionKey at texts
  rw [String.toList_append, String.toList_append,
    List.append_cancel_left_eq] at texts
  exact UInt16.toNat_inj.mp
    (Text.zeroPadded_injective (String.toList_inj.mp texts))

/-! ### The plan of an accepted shape -/

/-- Every index in order, each with its own key and range. -/
structure IsPlan (partitions : UInt16) (width : UInt64)
    (plan : List Assignment) : Prop where
  indexed : plan.map Assignment.index = indices partitions
  keyed : ∀ planned ∈ plan, planned.key = partitionKey planned.index
  ranged : ∀ planned ∈ plan,
    IsRange width planned.index planned.start planned.stop

theorem assignment_eq_ok {width : UInt64} {index : UInt16}
    {planned : Assignment} (positive : 0 < width.toNat) :
    assignment width index = .ok planned ↔
      planned.index = index ∧ planned.key = partitionKey planned.index ∧
        IsRange width planned.index planned.start planned.stop := by
  unfold assignment
  simp only [bind_eq_ok, pure_eq_ok, Prod.exists, rangeOf_eq_ok positive]
  constructor
  · intro built
    obtain ⟨start, stop, range, same⟩ := built
    rw [← same]
    exact ⟨rfl, rfl, range⟩
  · intro parts
    obtain ⟨same, key, range⟩ := parts
    rw [← same]
    refine ⟨planned.start, planned.stop, range, ?_⟩
    rw [← key]

theorem assignments_eq_ok {rows : UInt64} {partitions : UInt16}
    {width : UInt64} (shape : Shape rows partitions width)
    {plan : List Assignment} :
    assignments rows partitions = .ok plan ↔
      IsPlan partitions width plan := by
  have one : (1 : UInt8).toNat = 1 := rfl
  have nonempty := shape.nonempty
  have accepted : validateShape rows partitions 1 = .ok width :=
    validateShape_eq_ok.mpr ⟨shape, by omega, by omega⟩
  unfold assignments
  rw [accepted, ok_bind, mapM_eq_ok]
  simp only [assignment_eq_ok shape.positive]
  rw [forall₂_label]
  constructor
  · intro parts
    exact ⟨parts.1, fun planned member => (parts.2 planned member).1,
      fun planned member => (parts.2 planned member).2⟩
  · intro isPlan
    exact ⟨isPlan.indexed, fun planned member =>
      ⟨isPlan.keyed planned member, isPlan.ranged planned member⟩⟩

/-- An accepted shape has a plan: no computation of a range overflows. -/
theorem Shape.plan {rows : UInt64} {partitions : UInt16} {width : UInt64}
    (shape : Shape rows partitions width) :
    ∃ plan, IsPlan partitions width plan := by
  have each : ∀ indexes : List UInt16,
      (∀ index ∈ indexes, index.toNat < partitions.toNat) →
        ∃ plan : List Assignment, plan.map Assignment.index = indexes ∧
          ∀ planned ∈ plan, planned.key = partitionKey planned.index ∧
            IsRange width planned.index planned.start planned.stop := by
    intro indexes
    induction indexes with
    | nil =>
        intro _
        exact ⟨[], rfl, fun planned member => absurd member List.not_mem_nil⟩
    | cons index rest ih =>
        intro below
        have bounds := List.forall_mem_cons.mp below
        obtain ⟨plan, indexed, facts⟩ := ih bounds.2
        obtain ⟨start, stop, range⟩ := shape.range bounds.1
        refine ⟨⟨index, partitionKey index, start, stop⟩ :: plan, ?_, ?_⟩
        · rw [List.map_cons, indexed]
        · exact List.forall_mem_cons.mpr ⟨⟨rfl, range⟩, facts⟩
  obtain ⟨plan, indexed, facts⟩ :=
    each (indices partitions) (fun index member => mem_indices.mp member)
  exact ⟨plan, indexed, fun planned member => (facts planned member).1,
    fun planned member => (facts planned member).2⟩

namespace IsPlan

variable {rows : UInt64} {partitions : UInt16} {width : UInt64}
  {plan : List Assignment} (isPlan : IsPlan partitions width plan)

include isPlan

theorem below {planned : Assignment} (member : planned ∈ plan) :
    planned.index.toNat < partitions.toNat := by
  apply mem_indices.mp
  rw [← isPlan.indexed]
  exact List.mem_map_of_mem member

/-- The entries are the indices below the partition count, each with the key
and the range of its index. -/
theorem mem_iff {planned : Assignment} :
    planned ∈ plan ↔ planned.index.toNat < partitions.toNat ∧
      planned.key = partitionKey planned.index ∧
        IsRange width planned.index planned.start planned.stop := by
  constructor
  · intro member
    exact ⟨isPlan.below member, isPlan.keyed planned member,
      isPlan.ranged planned member⟩
  · intro parts
    obtain ⟨below, key, range⟩ := parts
    have listed := mem_indices.mpr below
    rw [← isPlan.indexed] at listed
    obtain ⟨other, member, same⟩ := List.mem_map.mp listed
    have otherRange := isPlan.ranged other member
    rw [same] at otherRange
    have sameKey := isPlan.keyed other member
    rw [same, ← key] at sameKey
    have sameRange := range.unique otherRange
    have equal : planned = other :=
      Assignment.ext same.symm sameKey.symm sameRange.1 sameRange.2
    rw [equal]
    exact member

theorem exists_index {index : UInt16}
    (below : index.toNat < partitions.toNat) :
    ∃ planned ∈ plan, planned.index = index := by
  have listed := mem_indices.mpr below
  rw [← isPlan.indexed] at listed
  exact List.mem_map.mp listed

theorem length_eq : plan.length = partitions.toNat := by
  have lengths := congrArg List.length isPlan.indexed
  rw [List.length_map] at lengths
  rw [lengths, indices, List.length_map, List.length_range]

theorem index_at {position : Nat} {planned : Assignment}
    (listed : plan[position]? = some planned) :
    planned.index.toNat = position := by
  have label : (plan.map Assignment.index)[position]? =
      some planned.index := by
    rw [List.getElem?_map, listed]
    rfl
  rw [isPlan.indexed] at label
  exact (indices_getElem?.mp label).1

theorem eq_of_index {first second : Assignment} (inFirst : first ∈ plan)
    (inSecond : second ∈ plan) (same : first.index = second.index) :
    first = second := by
  have distinct := indices_nodup partitions
  rw [← isPlan.indexed] at distinct
  exact List.inj_on_of_nodup_map distinct inFirst inSecond same

end IsPlan

/-! ### The ranges cover the rows exactly -/

/-- An id lies in a range. -/
def Assignment.Contains (planned : Assignment) (id : Nat) : Prop :=
  planned.start.toNat ≤ id ∧ id ≤ planned.stop.toNat

/-- Consecutive, disjoint, nonempty ranges of one width with distinct keys,
which together are the ids from one to `rows`. -/
structure ExactCover (rows : UInt64) (partitions : UInt16) (width : UInt64)
    (plan : List Assignment) : Prop where
  length : plan.length = partitions.toNat
  nonempty : ∀ planned ∈ plan, planned.start.toNat ≤ planned.stop.toNat
  equalSize : ∀ planned ∈ plan,
    planned.stop.toNat + 1 = planned.start.toNat + width.toNat
  consecutive : ∀ position first second, plan[position]? = some first →
    plan[position + 1]? = some second →
      second.start.toNat = first.stop.toNat + 1
  disjoint : plan.Pairwise
    (fun first second => ∀ id, first.Contains id → ¬ second.Contains id)
  union : ∀ id, (∃ planned ∈ plan, planned.Contains id) ↔
    1 ≤ id ∧ id ≤ rows.toNat
  distinctKeys : (plan.map Assignment.key).Nodup
  fits : ∀ planned ∈ plan, (planned.start.toNat : Int) ≤ i64Max ∧
    (planned.stop.toNat : Int) ≤ i64Max

namespace IsPlan

variable {rows : UInt64} {partitions : UInt16} {width : UInt64}
  {plan : List Assignment} (isPlan : IsPlan partitions width plan)

include isPlan

theorem contains_iff {planned : Assignment} (member : planned ∈ plan)
    (id : Nat) :
    planned.Contains id ↔
      EqualBlocks.Within width.toNat planned.index.toNat id :=
  ((isPlan.ranged planned member).within id).symm

theorem union_iff (shape : Shape rows partitions width) (id : Nat) :
    (∃ planned ∈ plan, planned.Contains id) ↔
      1 ≤ id ∧ id ≤ rows.toNat := by
  rw [shape.exact, ← EqualBlocks.covered_iff shape.positive]
  constructor
  · intro found
    obtain ⟨planned, member, contains⟩ := found
    exact ⟨planned.index.toNat, isPlan.below member,
      (isPlan.contains_iff member id).mp contains⟩
  · intro found
    obtain ⟨index, below, within⟩ := found
    have limit := partitions.toNat_lt
    have value : (UInt16.ofNat index).toNat = index := by
      rw [UInt16.toNat_ofNat', Nat.mod_eq_of_lt (by omega)]
    have listed : (UInt16.ofNat index).toNat < partitions.toNat := by omega
    obtain ⟨planned, member, same⟩ := isPlan.exists_index listed
    refine ⟨planned, member, (isPlan.contains_iff member id).mpr ?_⟩
    rw [same, value]
    exact within

theorem exactCover (shape : Shape rows partitions width) :
    ExactCover rows partitions width plan := by
  have positive := shape.positive
  constructor
  · exact isPlan.length_eq
  · intro planned member
    have range := isPlan.ranged planned member
    rw [range.first, range.last]
    omega
  · intro planned member
    have range := isPlan.ranged planned member
    rw [range.first, range.last]
    omega
  · intro position first second atFirst atSecond
    have firstRange := isPlan.ranged first (List.mem_of_getElem? atFirst)
    have secondRange := isPlan.ranged second (List.mem_of_getElem? atSecond)
    rw [secondRange.first, firstRange.last, isPlan.index_at atFirst,
      isPlan.index_at atSecond, Nat.succ_mul]
  · have distinct := indices_nodup partitions
    rw [← isPlan.indexed, List.Nodup, List.pairwise_map] at distinct
    apply List.Pairwise.imp_of_mem ?_ distinct
    intro first second inFirst inSecond different id inOne inOther
    apply different
    rw [← UInt16.toNat_inj]
    exact EqualBlocks.within_unique positive
      ((isPlan.contains_iff inFirst id).mp inOne)
      ((isPlan.contains_iff inSecond id).mp inOther)
  · exact isPlan.union_iff shape
  · have keys : plan.map Assignment.key =
        (indices partitions).map partitionKey := by
      rw [← isPlan.indexed, List.map_map]
      exact List.map_congr_left isPlan.keyed
    rw [keys]
    exact (indices_nodup partitions).map
      (fun first second same => partitionKey_injective same)
  · intro planned member
    have range := isPlan.ranged planned member
    have last := shape.last_le (isPlan.below member)
    have limit := shape.fits
    have first := range.first
    have stop := range.last
    constructor
    · omega
    · omega

end IsPlan

/-! ### Recomputing a planned range -/

/-- An entry is the complete tuple of one of the planned assignments. -/
def Planned (plan : List Assignment) (entry : PartitionPlanEntry) : Prop :=
  ∃ planned ∈ plan, entry =
    partitionEntry planned entry.context.sourceDigest

/-- An entry is the complete tuple of the index that it names, whether or not
the plan has that index. -/
structure Complete (width : UInt64) (entry : PartitionPlanEntry) : Prop where
  keyed : entry.key = partitionKey entry.context.partitionIndex
  ranged : IsRange width entry.context.partitionIndex
    entry.context.rangeStart entry.context.rangeEnd

theorem IsPlan.planned_iff {partitions : UInt16} {width : UInt64}
    {plan : List Assignment} (isPlan : IsPlan partitions width plan)
    (entry : PartitionPlanEntry) :
    Planned plan entry ↔
      entry.context.partitionIndex < partitions ∧ Complete width entry := by
  rw [UInt16.lt_iff_toNat_lt]
  constructor
  · intro planned
    obtain ⟨assignment, member, same⟩ := planned
    have facts := isPlan.mem_iff.mp member
    rw [same]
    exact ⟨facts.1, facts.2.1, facts.2.2⟩
  · intro complete
    obtain ⟨below, key, range⟩ := complete
    exact ⟨⟨entry.context.partitionIndex, entry.key,
      entry.context.rangeStart, entry.context.rangeEnd⟩,
      isPlan.mem_iff.mpr ⟨below, key, range⟩, rfl⟩

/-- The worker that is started for an entry. -/
def workerOf (runName sourceDigest : String) (width : UInt64)
    (entry : PartitionPlanEntry) : PartitionWorker :=
  { runName
    key := entry.key
    contextJson := some (.ok entry.context)
    expectedSourceDigest := sourceDigest
    rowsPerPartition := width }

theorem recompute_eq_ok {worker : PartitionWorker} {index : UInt16}
    {key : String} {start stop : UInt64}
    (positive : 0 < worker.rowsPerPartition.toNat) :
    worker.recompute index = .ok (key, start, stop) ↔
      key = partitionKey index ∧
        IsRange worker.rowsPerPartition index start stop := by
  unfold PartitionWorker.recompute
  simp only [bind_eq_ok, pure_eq_ok, Prod.exists, rangeOf_eq_ok positive,
    Prod.mk.injEq]
  constructor
  · intro computed
    obtain ⟨first, last, range, sameKey, sameFirst, sameLast⟩ := computed
    rw [← sameFirst, ← sameLast]
    exact ⟨sameKey.symm, range⟩
  · intro parts
    exact ⟨start, stop, parts.2, parts.1.symm, rfl, rfl⟩

/-- A worker accepts the complete tuple of any index. -/
theorem checkAssignment_eq_ok {runName sourceDigest : String}
    {width : UInt64} {entry : PartitionPlanEntry}
    {payload : PartitionPayload} (positive : 0 < width.toNat) :
    (workerOf runName sourceDigest width entry).checkAssignment =
        .ok payload ↔
      payload = entry.context ∧ Complete width entry ∧
        entry.context.sourceDigest = sourceDigest := by
  unfold PartitionWorker.checkAssignment
  simp only [bind_eq_ok, require_eq_ok, pure_eq_ok, ensure_eq_ok,
    Prod.exists, exists_const]
  constructor
  · intro accepted
    obtain ⟨context, given, decoded, read, key, start, stop, computed,
      same, result⟩ := accepted
    cases given
    cases read
    have expected := (recompute_eq_ok positive).mp computed
    refine ⟨result.symm, ⟨same.1.trans expected.1, ?_⟩, same.2.2.2⟩
    rw [same.2.1, same.2.2.1]
    exact expected.2
  · intro parts
    obtain ⟨result, complete, digest⟩ := parts
    exact ⟨_, rfl, entry.context, rfl, entry.key, _, _,
      (recompute_eq_ok positive).mpr ⟨complete.keyed, complete.ranged⟩,
      ⟨rfl, rfl, rfl, digest⟩, result.symm⟩

theorem expectedAssignment_eq_ok {rows : UInt64}
    {partitions index : UInt16} {width : UInt64} {key : String}
    {start stop : UInt64} (shape : Shape rows partitions width) :
    Recoveryctl.expectedAssignment rows partitions index =
        .ok (key, start, stop) ↔
      index < partitions ∧ key = partitionKey index ∧
        IsRange width index start stop := by
  unfold Recoveryctl.expectedAssignment
  rw [Recoveryctl.validateShape_of_shape shape]
  simp only [bind_eq_ok, pure_eq_ok, Prod.exists, exists_const, ensure_eq_ok,
    rangeOf_eq_ok shape.positive, ok_bind, Prod.mk.injEq]
  constructor
  · intro computed
    obtain ⟨below, first, last, range, sameKey, sameFirst, sameLast⟩ :=
      computed
    rw [← sameFirst, ← sameLast]
    exact ⟨below, sameKey.symm, range⟩
  · intro parts
    exact ⟨parts.1, start, stop, parts.2.2, parts.2.1.symm, rfl, rfl⟩

/-- The recovery tool accepts the complete tuples of the planned indices. -/
theorem recoverEntry_eq_ok {rows : UInt64} {partitions : UInt16}
    {width : UInt64} {sourceDigest : String} {entry : PartitionPlanEntry}
    (shape : Shape rows partitions width) :
    Recoveryctl.recoverEntry rows partitions sourceDigest entry = .ok () ↔
      entry.context.partitionIndex < partitions ∧ Complete width entry ∧
        entry.context.sourceDigest = sourceDigest := by
  unfold Recoveryctl.recoverEntry
  simp only [bind_eq_ok, Prod.exists, ensure_eq_ok,
    expectedAssignment_eq_ok shape]
  constructor
  · intro accepted
    obtain ⟨key, start, stop, ⟨below, expected, range⟩, sameKey, sameStart,
      sameStop, digest⟩ := accepted
    rw [← sameStart, ← sameStop] at range
    exact ⟨below, ⟨sameKey.trans expected, range⟩, digest⟩
  · intro parts
    exact ⟨entry.key, _, _,
      ⟨parts.1, parts.2.1.keyed, parts.2.1.ranged⟩, rfl, rfl, rfl,
      parts.2.2⟩

/-! ### The owner of an id -/

theorem ownerIndex_eq_ok {width : UInt64} {id : Bigint} {owner : UInt16}
    (positive : 0 < width.toNat) (counted : 1 ≤ id.val) :
    ownerIndex width id = .ok owner ↔
      EqualBlocks.Within width.toNat owner.toNat id.val.toNat := by
  have range := id.property
  have high : i64Max = 9223372036854775807 := rfl
  rw [EqualBlocks.within_iff positive (by omega)]
  unfold ownerIndex
  simp only [bind_eq_ok, require_eq_ok, Word.toU64?_eq_some,
    Word.toU16?_eq_some, UInt64.toNat_div]
  have before : ∀ word : UInt64, (word.toNat : Int) = id.val →
      (word - 1).toNat = id.val.toNat - 1 := by
    intro word same
    have one : (1 : UInt64).toNat = 1 := rfl
    rw [UInt64.toNat_sub_of_le _ _ (by rw [UInt64.le_iff_toNat_le]; omega)]
    omega
  constructor
  · intro computed
    obtain ⟨word, same, quotient⟩ := computed
    rw [quotient, before word same]
  · intro quotient
    have value : (UInt64.ofNat id.val.toNat).toNat = id.val.toNat := by
      rw [UInt64.toNat_ofNat', Nat.mod_eq_of_lt (by omega)]
    have same : ((UInt64.ofNat id.val.toNat).toNat : Int) = id.val := by
      omega
    exact ⟨_, same, by rw [before _ same, quotient]⟩

/-- The one planned range that holds an id has the owner's index. -/
theorem IsPlan.owner {rows : UInt64} {partitions : UInt16} {width : UInt64}
    {plan : List Assignment} (isPlan : IsPlan partitions width plan)
    (shape : Shape rows partitions width) {id : Bigint}
    (counted : 1 ≤ id.val) (listed : id.val ≤ rows.toNat) :
    ∃ owner ∈ plan, ownerIndex width id = .ok owner.index ∧
      ∀ planned ∈ plan, planned.Contains id.val.toNat ↔ planned = owner := by
  obtain ⟨owner, member, contains⟩ :=
    (isPlan.union_iff shape id.val.toNat).mpr (by omega)
  have within := (isPlan.contains_iff member _).mp contains
  refine ⟨owner, member,
    (ownerIndex_eq_ok shape.positive counted).mpr within, ?_⟩
  intro planned inPlan
  constructor
  · intro also
    apply isPlan.eq_of_index inPlan member
    rw [← UInt16.toNat_inj]
    exact EqualBlocks.within_unique shape.positive
      ((isPlan.contains_iff inPlan _).mp also) within
  · intro same
    rw [same]
    exact contains

/-- The plan of an accepted shape is an exact cover, and the places that
compute its ranges again agree with it.  The recovery tool accepts the planned
entries only.  A worker accepts the planned entries; that it accepts nothing
else fails for the complete tuple of an index beyond the plan. -/
theorem plan_agrees {rows : UInt64} {partitions : UInt16} {workers : UInt8}
    {width : UInt64}
    (accepted : validateShape rows partitions workers = .ok width) :
    ∃ plan, assignments rows partitions = .ok plan ∧
      ExactCover rows partitions width plan ∧
      (∀ planned ∈ plan, ∀ worker : PartitionWorker,
        worker.rowsPerPartition = width →
          worker.recompute planned.index =
              .ok (planned.key, planned.start, planned.stop) ∧
            Recoveryctl.expectedAssignment rows partitions planned.index =
              .ok (planned.key, planned.start, planned.stop)) ∧
      (∀ id : Bigint, 1 ≤ id.val → id.val ≤ rows.toNat →
        ∃ owner ∈ plan, ownerIndex width id = .ok owner.index ∧
          ∀ planned ∈ plan,
            planned.Contains id.val.toNat ↔ planned = owner) ∧
      ∀ runName sourceDigest entry,
        entry.context.sourceDigest = sourceDigest →
          (Recoveryctl.recoverEntry rows partitions sourceDigest entry =
              .ok () ↔ Planned plan entry) ∧
          (Planned plan entry →
            (workerOf runName sourceDigest width entry).checkAssignment =
              .ok entry.context) ∧
          (((workerOf runName sourceDigest width entry).checkAssignment =
              .ok entry.context → Planned plan entry) ↔
            entry.context.partitionIndex < partitions ∨
              ¬ Complete width entry) := by
  have shape := (validateShape_eq_ok.mp accepted).1
  obtain ⟨plan, isPlan⟩ := shape.plan
  refine ⟨plan, (assignments_eq_ok shape).mpr isPlan,
    isPlan.exactCover shape, ?_, ?_, ?_⟩
  · intro planned member worker sameWidth
    have facts := isPlan.mem_iff.mp member
    constructor
    · apply (recompute_eq_ok (by rw [sameWidth]; exact shape.positive)).mpr
      rw [sameWidth]
      exact facts.2
    · exact (expectedAssignment_eq_ok shape).mpr
        ⟨UInt16.lt_iff_toNat_lt.mpr facts.1, facts.2⟩
  · intro id counted listed
    exact isPlan.owner shape counted listed
  · intro runName sourceDigest entry digest
    have worker : (workerOf runName sourceDigest width entry).checkAssignment =
        .ok entry.context ↔ Complete width entry := by
      rw [checkAssignment_eq_ok shape.positive]
      exact ⟨fun parts => parts.2.1, fun complete => ⟨rfl, complete, digest⟩⟩
    rw [recoverEntry_eq_ok shape, isPlan.planned_iff, worker]
    refine ⟨?_, fun planned => planned.2, ?_⟩
    · exact ⟨fun parts => ⟨parts.1, parts.2.1⟩,
        fun parts => ⟨parts.1, parts.2, digest⟩⟩
    constructor
    · intro exclusive
      by_cases complete : Complete width entry
      · exact Or.inl (exclusive complete).1
      · exact Or.inr complete
    · intro condition complete
      exact ⟨condition.resolve_right (fun absent => absent complete),
        complete⟩

/-- An entry beyond a plan of two partitions of two rows. -/
def strayEntry : PartitionPlanEntry :=
  { key := "partition-0002"
    context :=
      { partitionIndex := 2
        rangeStart := 5
        rangeEnd := 6
        sourceDigest := "digest" } }

theorem plan_agrees_two :
    ∃ plan, assignments 4 2 = .ok plan ∧ ExactCover 4 2 2 plan ∧
      (Recoveryctl.recoverEntry 4 2 "digest" strayEntry = .ok () ↔
        Planned plan strayEntry) := by
  obtain ⟨plan, built, cover, _, _, entries⟩ :=
    plan_agrees (by decide : validateShape 4 2 1 = .ok 2)
  exact ⟨plan, built, cover, (entries "run" "digest" strayEntry rfl).1⟩

end Partition
