/-
What the business verification accepts.

The hashed text does not escape its separators, and the keys of the destination
may hold any text.  The two row counts decide: the expected text has one line
end for each row, so a destination text of as many rows that equals it has no
line end inside a key, and then the lines and their fields agree one by one.
-/

import OxideWorkloads.Partition.Writes

namespace Partition

open Foundation
open Foundation.Checks
open Foundation.LineLog (Bytes)
open Projection (hexDigest hexDigest_injective utf8_injective)

/-! ### The hashed text -/

/-- A row without its line end. -/
def lineOf (row : Bigint × ProjectedRow) : List Char :=
  (Text.signed row.1.val).toList ++ '|' ::
    ((Text.signed row.2.projectedValue.val).toList ++
      '|' :: row.2.partitionKey.toList)

theorem renderRow_toList (row : Bigint × ProjectedRow) :
    (renderRow row).toList = lineOf row ++ ['\n'] := by
  have bar : "|".toList = ['|'] := rfl
  have ending : "\n".toList = ['\n'] := rfl
  unfold renderRow lineOf
  simp only [String.toList_append, bar, ending, List.append_assoc,
    List.cons_append, List.nil_append]

theorem rowContent_eq (rows : List (Bigint × ProjectedRow)) :
    rowContent rows = Json.utf8
      (String.ofList (Separated.close '\n' (rows.map lineOf))) := by
  unfold rowContent Separated.close
  simp only [renderRow_toList, List.flatMap_map]

theorem signed_free {separator : Char} (sign : separator ≠ '-')
    (digit : separator.isDigit = false) (value : Int) :
    separator ∉ (Text.signed value).toList := by
  intro member
  rcases Text.signed_chars member with same | isDigit
  · exact sign same
  · rw [digit] at isDigit
    cases isDigit

theorem lineOf_injective {first second : Bigint × ProjectedRow}
    (same : lineOf first = lineOf second) : first = second := by
  have free := signed_free (by decide : '|' ≠ '-') (by decide)
  have ids := Separated.append_injective (free _) (free _) same
  have values := Separated.append_injective (free _) (free _) ids.2
  have sameId : first.1 = second.1 :=
    Subtype.ext (Text.signed_injective (String.toList_inj.mp ids.1))
  have sameValue : first.2.projectedValue = second.2.projectedValue :=
    Subtype.ext (Text.signed_injective (String.toList_inj.mp values.1))
  have sameKey := String.toList_inj.mp values.2
  obtain ⟨firstId, firstValue, firstKey⟩ := first
  obtain ⟨secondId, secondValue, secondKey⟩ := second
  simp only at sameId sameValue sameKey
  rw [sameId, sameValue, sameKey]

theorem lineOf_free {row : Bigint × ProjectedRow}
    (clean : '\n' ∉ row.2.partitionKey.toList) : '\n' ∉ lineOf row := by
  have free := signed_free (by decide : '\n' ≠ '-') (by decide)
  unfold lineOf
  simp only [List.mem_append, List.mem_cons]
  intro member
  rcases member with id | bar | value | bar | key
  · exact free _ id
  · exact absurd bar (by decide)
  · exact free _ value
  · exact absurd bar (by decide)
  · exact clean key

theorem partitionKey_clean (index : UInt16) :
    '\n' ∉ (partitionKey index).toList := by
  unfold partitionKey
  rw [String.toList_append, List.mem_append]
  intro member
  rcases member with start | digits
  · exact absurd start (by decide)
  · have isDigit := List.all_eq_true.mp
      (Text.zeroPadded_isAsciiDigits 4 index.toNat) _ digits
    exact absurd isDigit (by decide)

/-- Rows with clean keys are told by the hashed text from any rows of the same
number. -/
theorem rowContent_injective {expected actual : List (Bigint × ProjectedRow)}
    (clean : ∀ row ∈ expected, '\n' ∉ row.2.partitionKey.toList)
    (sameLength : expected.length = actual.length)
    (same : rowContent expected = rowContent actual) : expected = actual := by
  rw [rowContent_eq, rowContent_eq] at same
  have texts := String.ofList_injective (utf8_injective same)
  have lines : expected.map lineOf = actual.map lineOf := by
    apply Separated.close_injective ?_ ?_ texts
    · intro line member
      obtain ⟨row, listed, equal⟩ := List.mem_map.mp member
      rw [← equal]
      exact lineOf_free (clean row listed)
    · rw [List.length_map, List.length_map, sameLength]
  exact List.map_injective_iff.mpr (fun _ _ => lineOf_injective) lines

theorem finishDigest_injective {sha256 : Bytes → Vector UInt8 32}
    {left right : Bytes}
    (same : finishDigest sha256 left = finishDigest sha256 right) :
    sha256 left = sha256 right :=
  Vector.toList_inj.mp (hexDigest_injective same)

/-! ### The expected rows -/

theorem projectValue_eq_some {payload value : Bigint} :
    projectValue payload = some value ↔
      i64Min ≤ 3 * payload.val ∧ 3 * payload.val ≤ i64Max ∧
        value.val = 3 * payload.val + 7 := by
  unfold projectValue
  simp only [Option.bind_eq_some_iff, Word.toBigint?_eq_some]
  constructor
  · intro projected
    obtain ⟨tripled, first, second⟩ := projected
    have range := tripled.property
    omega
  · intro parts
    exact ⟨⟨payload.val * 3, by omega, by omega⟩, rfl, by
      simp only
      omega⟩

theorem expectedRow_eq_ok {width : UInt64} {row : Bigint × Bigint}
    {expected : Bigint × ProjectedRow} :
    expectedRow width row = .ok expected ↔
      expected.1 = row.1 ∧ ∃ owner, ownerIndex width row.1 = .ok owner ∧
        projectValue row.2 = some expected.2.projectedValue ∧
        expected.2.partitionKey = partitionKey owner := by
  unfold expectedRow
  simp only [bind_eq_ok, require_eq_ok, pure_eq_ok]
  constructor
  · intro computed
    obtain ⟨owner, owns, value, projects, same⟩ := computed
    rw [← same]
    exact ⟨rfl, owner, owns, projects, rfl⟩
  · intro parts
    obtain ⟨sameId, owner, owns, projects, key⟩ := parts
    obtain ⟨id, value, text⟩ := expected
    refine ⟨owner, owns, value, projects, ?_⟩
    simp only at sameId key
    rw [sameId, key]

section

variable {source : SourceTable} {width : UInt64}
  {expected : List (Bigint × ProjectedRow)}

theorem expectedRows_related
    (computed : expectedRows source width = .ok expected) :
    List.Forall₂ (fun row expected => expectedRow width row = .ok expected)
      source.entries expected :=
  mapM_eq_ok.mp computed

theorem expectedRows_ids
    (computed : expectedRows source width = .ok expected) :
    expected.map Prod.fst = source.entries.map Prod.fst := by
  apply map_eq_of_forall₂
  exact (expectedRows_related computed).imp
    (fun row other same => (expectedRow_eq_ok.mp same).1)

theorem expectedRows_length
    (computed : expectedRows source width = .ok expected) :
    expected.length = source.entries.length := by
  have lengths := congrArg List.length (expectedRows_ids computed)
  rw [List.length_map, List.length_map] at lengths
  exact lengths

theorem expectedRows_ascend
    (computed : expectedRows source width = .ok expected) :
    expected.Pairwise (fun left right => left.1 < right.1) := by
  have sorted : (expected.map Prod.fst).Pairwise (fun left right =>
      left < right) := by
    rw [expectedRows_ids computed, List.pairwise_map]
    exact source.sorted
  exact List.pairwise_map.mp sorted

theorem expectedRows_clean
    (computed : expectedRows source width = .ok expected) :
    ∀ row ∈ expected, '\n' ∉ row.2.partitionKey.toList := by
  intro row member
  obtain ⟨origin, _, same⟩ :=
    exists_of_forall₂ (expectedRows_related computed) member
  obtain ⟨_, owner, _, _, key⟩ := expectedRow_eq_ok.mp same
  rw [key]
  exact partitionKey_clean owner

/-- Tables with the same rows are the same list of rows. -/
theorem entries_eq_of_mem {written : RunRows}
    (ascends : expected.Pairwise (fun left right => left.1 < right.1))
    (same : ∀ row, row ∈ written.entries ↔ row ∈ expected) :
    written.entries = expected := by
  have distinct : ∀ rows : List (Bigint × ProjectedRow),
      rows.Pairwise (fun left right => left.1 < right.1) → rows.Nodup :=
    fun rows sorted => sorted.imp (fun below equal =>
      absurd (congrArg Prod.fst equal) (ne_of_lt below))
  apply List.Perm.eq_of_pairwise ?_ written.sorted ascends
  · exact (List.perm_ext_iff_of_nodup (distinct _ written.sorted)
      (distinct _ ascends)).mpr same
  · intro left right _ _ below above
    exact absurd (lt_trans below above) (lt_irrefl _)

end

/-! ### The verification -/

theorem ownsRange_planned {rows : UInt64} {partitions : UInt16}
    {width : UInt64} {plan : List Assignment}
    (shape : Shape rows partitions width)
    (isPlan : IsPlan partitions width plan) {planned : Assignment}
    {position : Nat} (listed : plan[position]? = some planned) :
    ownsRange width planned position = true := by
  have member := List.mem_of_getElem? listed
  have range := isPlan.ranged planned member
  have index := isPlan.index_at listed
  have below := isPlan.below member
  have limit := partitions.toNat_lt
  have positive := shape.positive
  have one : (1 : UInt64).toNat = 1 := rfl
  have first := range.first
  have last := range.last
  have startLimit := planned.start.toNat_lt
  have number : (UInt64.ofNat position).toNat = position := by
    rw [UInt64.toNat_ofNat', Nat.mod_eq_of_lt (by omega)]
  have product : (UInt64.ofNat (position * width.toNat)).toNat =
      position * width.toNat := by
    rw [index] at first
    rw [UInt64.toNat_ofNat', Nat.mod_eq_of_lt (by omega)]
  have multiplied : Word.checkedMul (UInt64.ofNat position) width =
      some (UInt64.ofNat (position * width.toNat)) := by
    rw [Word.checkedMul_eq_some, number, product]
  have start : Word.checkedAdd (UInt64.ofNat (position * width.toNat)) 1 =
      some planned.start := by
    rw [Word.checkedAdd_eq_some, product, one, first, index]
  have stop : planned.stop = planned.start + width - 1 := by
    have cover := (isPlan.exactCover shape).equalSize planned member
    have fits := (isPlan.exactCover shape).fits planned member
    have high : i64Max = 9223372036854775807 := rfl
    have widthLimit := width.toNat_lt
    have sum : (planned.start + width).toNat =
        planned.start.toNat + width.toNat := by
      rw [UInt64.toNat_add, Nat.mod_eq_of_lt (by omega)]
    rw [← UInt64.toNat_inj, UInt64.toNat_sub_of_le _ _
      (by rw [UInt64.le_iff_toNat_le, sum, one]; omega), sum, one]
    omega
  unfold ownsRange
  rw [multiplied, Option.bind_some, start, Option.getD_some,
    if_pos (by omega)]
  simp only [Bool.and_eq_true, decide_eq_true_eq]
  refine ⟨⟨?_, trivial⟩, stop⟩
  rw [← index, UInt16.ofNat_toNat]

theorem ownership_planned {rows : UInt64} {partitions : UInt16}
    {width : UInt64} {plan : List Assignment}
    (shape : Shape rows partitions width)
    (isPlan : IsPlan partitions width plan) :
    plan.zipIdx.all (fun entry => ownsRange width entry.1 entry.2) =
      true := by
  rw [List.all_eq_true]
  intro entry member
  exact ownsRange_planned shape isPlan
    (List.mem_zipIdx_iff_getElem?.mp member)

/-- No id of one list is missing in a map with the same ids. -/
theorem countP_missing {α β : Type} {given : OrderedMap Bigint α}
    {other : OrderedMap Bigint β}
    (same : given.entries.map Prod.fst = other.entries.map Prod.fst) :
    given.entries.countP (fun row => (other.get? row.1).isNone) = 0 := by
  rw [List.countP_eq_zero]
  intro row member
  have listed : row.1 ∈ given.entries.map Prod.fst :=
    List.mem_map_of_mem member
  rw [same] at listed
  obtain ⟨found, present, equal⟩ := List.mem_map.mp listed
  have value : other.get? row.1 = some found.2 := by
    rw [← equal]
    exact OrderedMap.get?_eq_some.mpr present
  simp [value]

/-- The two inputs that the verification compares do not collide. -/
def NoCollision (sha256 : Bytes → Vector UInt8 32)
    (expected actual : List (Bigint × ProjectedRow)) : Prop :=
  sha256 (rowContent expected) = sha256 (rowContent actual) →
    rowContent expected = rowContent actual

/-- When the expected rows can be computed, the verification returns, and it
passes exactly when the source has its rows and the destination is the
expected rows. -/
theorem verifyBusiness_passed {sha256 : Bytes → Vector UInt8 32}
    {source : SourceTable} {destination : Destination} {runName : String}
    {rows : UInt64} {partitions : UInt16} {width : UInt64}
    {expected : List (Bigint × ProjectedRow)}
    (shape : Shape rows partitions width)
    (computed : expectedRows source width = .ok expected)
    (noCollision : NoCollision sha256 expected
      (destination runName).entries) :
    ∃ verification,
      verifyBusiness sha256 source destination runName rows partitions
          width = .ok verification ∧
        (verification.passed rows = true ↔
          source.entries.length = rows.toNat ∧
            (destination runName).entries = expected) := by
  obtain ⟨plan, isPlan⟩ := shape.plan
  have built := (assignments_eq_ok shape).mpr isPlan
  have owned := ownership_planned shape isPlan
  have length := expectedRows_length computed
  have identity : expectedDestinationIdentity sha256 source width =
      .ok (expected.length, finishDigest sha256 (rowContent expected)) := by
    unfold expectedDestinationIdentity
    rw [computed]
    rfl
  unfold verifyBusiness
  simp only [identity, ok_bind, built, owned]
  by_cases full : expected.length = rows.toNat
  · rw [if_pos full]
    refine ⟨_, rfl, ?_⟩
    unfold BusinessVerification.passed sourceIdentity destinationIdentity
    simp only [Bool.and_eq_true, decide_eq_true_eq, and_true]
    constructor
    · intro passed
      obtain ⟨⟨⟨⟨⟨sourceCount, count⟩, _⟩, _⟩, _⟩, digest⟩ := passed
      refine ⟨sourceCount, ?_⟩
      exact (rowContent_injective (expectedRows_clean computed)
        (full.trans count.symm)
        (noCollision (finishDigest_injective digest))).symm
    · intro equal
      have ids : (destination runName).entries.map Prod.fst =
          source.entries.map Prod.fst := by
        rw [equal.2]
        exact expectedRows_ids computed
      refine ⟨⟨⟨⟨⟨equal.1, ?_⟩, ?_⟩, ?_⟩, ?_⟩, ?_⟩
      · rw [equal.2]
        exact full
      · rw [(destination runName).keys_nodup.dedup, List.length_map, equal.2]
        exact full
      · exact countP_missing ids.symm
      · exact countP_missing ids
      · rw [equal.2]
  · rw [if_neg full]
    refine ⟨_, rfl, ?_⟩
    unfold BusinessVerification.passed
    simp only [Bool.and_false, Bool.false_eq_true, false_iff]
    intro equal
    rw [length] at full
    exact full equal.1

/-! ### Exactly the right destination -/

/-- The ids are positive, and the owner index and the projection of every
source row fit their types. -/
def Fits (source : SourceTable) (width : UInt64) : Prop :=
  ∀ row ∈ source.entries,
    1 ≤ row.1.val ∧ (row.1.val.toNat - 1) / width.toNat < 65536 ∧
      i64Min ≤ 3 * row.2.val ∧ 3 * row.2.val + 7 ≤ i64Max

theorem Fits.row {source : SourceTable} {width : UInt64}
    (fits : Fits source width) {id payload : Bigint}
    (present : source.get? id = some payload) :
    1 ≤ id.val ∧ (id.val.toNat - 1) / width.toNat < 65536 ∧
      i64Min ≤ 3 * payload.val ∧ 3 * payload.val + 7 ≤ i64Max :=
  fits (id, payload) (OrderedMap.get?_eq_some.mp present)

/-- The destination rows are the projections of the source rows, each with the
key of the range that division gives. -/
def Exactly (source : SourceTable) (width : UInt64) (written : RunRows) :
    Prop :=
  ∀ id row, written.get? id = some row ↔
    ∃ payload, source.get? id = some payload ∧
      row.projectedValue.val = 3 * payload.val + 7 ∧
      row.partitionKey = partitionKey
        (UInt16.ofNat ((id.val.toNat - 1) / width.toNat))

theorem ownerIndex_of_fits {source : SourceTable} {width : UInt64}
    (positive : 0 < width.toNat) (fits : Fits source width) {id : Bigint}
    {payload : Bigint} (present : source.get? id = some payload) :
    ownerIndex width id =
      .ok (UInt16.ofNat ((id.val.toNat - 1) / width.toNat)) := by
  obtain ⟨counted, small, _⟩ := fits.row present
  rw [ownerIndex_eq_ok positive counted,
    EqualBlocks.within_iff positive (by omega), UInt16.toNat_ofNat',
    Nat.mod_eq_of_lt (by omega)]

theorem expectedRow_of_fits {source : SourceTable} {width : UInt64}
    (positive : 0 < width.toNat) (fits : Fits source width) {id : Bigint}
    {payload : Bigint} (present : source.get? id = some payload)
    (row : ProjectedRow) :
    expectedRow width (id, payload) = .ok (id, row) ↔
      row.projectedValue.val = 3 * payload.val + 7 ∧
        row.partitionKey = partitionKey
          (UInt16.ofNat ((id.val.toNat - 1) / width.toNat)) := by
  obtain ⟨_, _, low, high⟩ := fits.row present
  have bounded : 3 * payload.val ≤ i64Max := by omega
  rw [expectedRow_eq_ok, ownerIndex_of_fits positive fits present,
    projectValue_eq_some]
  constructor
  · intro parts
    obtain ⟨_, owner, same, projects, key⟩ := parts
    cases same
    exact ⟨projects.2.2, key⟩
  · intro parts
    exact ⟨rfl, _, rfl, ⟨low, bounded, parts.1⟩, parts.2⟩

theorem expectedRows_of_fits {source : SourceTable} {width : UInt64}
    (positive : 0 < width.toNat) (fits : Fits source width) :
    ∃ expected, expectedRows source width = .ok expected := by
  have each : ∀ rows : List (Bigint × Bigint),
      (∀ row ∈ rows, source.get? row.1 = some row.2) →
        ∃ expected, List.Forall₂ (fun row expected =>
          expectedRow width row = .ok expected) rows expected := by
    intro rows
    induction rows with
    | nil =>
        intro _
        exact ⟨[], List.Forall₂.nil⟩
    | cons row rest ih =>
        intro present
        have parts := List.forall_mem_cons.mp present
        obtain ⟨expected, related⟩ := ih parts.2
        obtain ⟨_, _, low, high⟩ := fits.row parts.1
        have value : ∃ value : Bigint, value.val = 3 * row.2.val + 7 :=
          ⟨⟨3 * row.2.val + 7, by omega, high⟩, rfl⟩
        obtain ⟨value, projects⟩ := value
        exact ⟨_ :: expected, List.Forall₂.cons
          ((expectedRow_of_fits positive fits parts.1
            { projectedValue := value, partitionKey := _ }).mpr
              ⟨projects, rfl⟩) related⟩
  obtain ⟨expected, related⟩ := each source.entries
    (fun row member => OrderedMap.get?_eq_some.mpr member)
  exact ⟨expected, mapM_eq_ok.mpr related⟩

theorem exactly_iff {source : SourceTable} {width : UInt64}
    {expected : List (Bigint × ProjectedRow)} {written : RunRows}
    (positive : 0 < width.toNat) (fits : Fits source width)
    (computed : expectedRows source width = .ok expected) :
    Exactly source width written ↔ written.entries = expected := by
  have related := expectedRows_related computed
  have listed : ∀ id row, (id, row) ∈ expected ↔
      ∃ payload, source.get? id = some payload ∧
        row.projectedValue.val = 3 * payload.val + 7 ∧
        row.partitionKey = partitionKey
          (UInt16.ofNat ((id.val.toNat - 1) / width.toNat)) := by
    intro id row
    constructor
    · intro member
      obtain ⟨⟨origin, payload⟩, inSource, same⟩ :=
        exists_of_forall₂ related member
      have sameId : id = origin := (expectedRow_eq_ok.mp same).1
      rw [← sameId] at inSource same
      have present := OrderedMap.get?_eq_some.mpr inSource
      exact ⟨payload, present,
        (expectedRow_of_fits positive fits present row).mp same⟩
    · intro found
      obtain ⟨payload, present, values⟩ := found
      obtain ⟨other, member, same⟩ := exists_of_forall₂_left related
        (OrderedMap.get?_eq_some.mp present)
      rw [(expectedRow_of_fits positive fits present row).mpr values] at same
      cases same
      exact member
  constructor
  · intro exact
    apply entries_eq_of_mem (expectedRows_ascend computed)
    intro row
    rw [← OrderedMap.get?_eq_some, exact row.1 row.2]
    exact (listed row.1 row.2).symm
  · intro equal id row
    rw [OrderedMap.get?_eq_some, equal]
    exact listed id row

/-- The business verification returns for every source that fits, and passes
exactly when the source has its rows and the destination is the projection of
the source. -/
theorem verifyBusiness_exact {rows : UInt64} {partitions : UInt16}
    {workers : UInt8} {width : UInt64}
    (accepted : validateShape rows partitions workers = .ok width)
    (source : SourceTable) (fits : Fits source width)
    (destination : Destination) (runName : String)
    (sha256 : Bytes → Vector UInt8 32)
    (noCollision : ∀ expected, expectedRows source width = .ok expected →
      NoCollision sha256 expected (destination runName).entries) :
    ∃ verification,
      verifyBusiness sha256 source destination runName rows partitions
          width = .ok verification ∧
        (verification.passed rows = true ↔
          source.entries.length = rows.toNat ∧
            Exactly source width (destination runName)) := by
  have shape := (validateShape_eq_ok.mp accepted).1
  obtain ⟨expected, computed⟩ := expectedRows_of_fits shape.positive fits
  rw [exactly_iff shape.positive fits computed]
  exact verifyBusiness_passed shape computed (noCollision expected computed)

/-- The rows that a run over `fourRows` with two partitions leaves. -/
def fourWritten : RunRows :=
  { entries :=
      [(small 1, { projectedValue := small 37
                   partitionKey := "partition-0000" }),
        (small 2, { projectedValue := small 67
                    partitionKey := "partition-0000" }),
        (small 3, { projectedValue := small 97
                    partitionKey := "partition-0001" }),
        (small 4, { projectedValue := small 22
                    partitionKey := "partition-0001" })]
    sorted := by decide }

theorem verifyBusiness_exact_four :
    ∃ verification,
      verifyBusiness Sha256.digest fourRows (fun _ => fourWritten) "run" 4 2
          2 = .ok verification ∧
        (verification.passed 4 = true ↔
          fourRows.entries.length = (4 : UInt64).toNat ∧
            Exactly fourRows 2 fourWritten) := by
  have computed : expectedRows fourRows 2 = .ok fourWritten.entries := by
    decide
  have fits : Fits fourRows 2 := by
    intro row member
    revert row
    decide
  apply verifyBusiness_exact (by decide : validateShape 4 2 1 = .ok 2) fourRows
    fits (fun _ => fourWritten) "run" Sha256.digest
  intro expected same _
  rw [computed] at same
  cases same
  rfl

/-! ### Range ownership -/

/-- The ids that a passed verification has seen. -/
theorem destination_ids {source : SourceTable} {width : UInt64}
    {written : RunRows} {expected : List (Bigint × ProjectedRow)}
    (computed : expectedRows source width = .ok expected)
    (equal : written.entries = expected) (id : Bigint) :
    (source.get? id).isSome ↔ ∃ row, written.get? id = some row := by
  have ids := expectedRows_ids computed
  rw [← equal] at ids
  have listed : ∀ {α : Type} (map : OrderedMap Bigint α),
      (∃ value, map.get? id = some value) ↔
        id ∈ map.entries.map Prod.fst := by
    intro α map
    rw [List.mem_map]
    constructor
    · intro found
      obtain ⟨value, present⟩ := found
      exact ⟨(id, value), OrderedMap.get?_eq_some.mp present, rfl⟩
    · intro member
      obtain ⟨entry, present, same⟩ := member
      rw [← same]
      exact ⟨entry.2, OrderedMap.get?_eq_some.mpr present⟩
  rw [Option.isSome_iff_exists, listed, listed, ids]

/-- What a passed verification has established. -/
theorem verified_passed {sha256 : Bytes → Vector UInt8 32}
    {source : SourceTable} {destination : Destination} {runName : String}
    {rows : UInt64} {partitions : UInt16} {width : UInt64}
    (shape : Shape rows partitions width)
    (noCollision : ∀ expected, expectedRows source width = .ok expected →
      NoCollision sha256 expected (destination runName).entries)
    {verification : BusinessVerification}
    (verified : verifyBusiness sha256 source destination runName rows
      partitions width = .ok verification)
    (passed : verification.passed rows = true) :
    source.entries.length = rows.toNat ∧
      expectedRows source width = .ok (destination runName).entries := by
  have unfolded := verified
  unfold verifyBusiness expectedDestinationIdentity at unfolded
  simp only [bind_eq_ok] at unfolded
  obtain ⟨_, ⟨expected, computed, _⟩, _⟩ := unfolded
  obtain ⟨other, same, verdict⟩ := verifyBusiness_passed shape computed
    (noCollision expected computed)
  rw [verified] at same
  cases same
  have facts := verdict.mp passed
  rw [computed, facts.2]
  exact ⟨facts.1, rfl⟩

/-- A source whose ids all lie inside the plan has every one of them, and each
range holds its full width. -/
theorem owned_count {rows : UInt64} {partitions : UInt16} {width : UInt64}
    {plan : List Assignment} (shape : Shape rows partitions width)
    (isPlan : IsPlan partitions width plan) {α : Type}
    {table : OrderedMap Bigint α}
    (total : table.entries.length = rows.toNat)
    (bounded : ∀ row ∈ table.entries,
      1 ≤ row.1.val ∧ row.1.val ≤ rows.toNat) {planned : Assignment}
    (member : planned ∈ plan) :
    (table.entries.filter (fun row => planned.Owns row.1)).length =
      width.toNat := by
  have distinct := ids_nodup table
  have inside : (table.entries.map (fun row => row.1.val)).filter
      (fun number => 1 ≤ number ∧ number ≤ (rows.toNat : Int)) =
        table.entries.map (fun row => row.1.val) := by
    apply List.filter_eq_self.mpr
    intro number listed
    obtain ⟨row, present, same⟩ := List.mem_map.mp listed
    rw [← same]
    exact decide_eq_true (bounded row present)
  have holds := EqualBlocks.holds_of_count distinct (by
    rw [inside, List.length_map, total]
    omega)
  have cover := isPlan.exactCover shape
  have size := cover.equalSize planned member
  have range := isPlan.ranged planned member
  have last := shape.last_le (isPlan.below member)
  have first := range.first
  have stop := range.last
  have count := EqualBlocks.count_of_holds distinct
    (fun number (low : (planned.start.toNat : Int) ≤ number)
      (high : number ≤ (planned.stop.toNat : Int)) =>
      holds number (by omega) (by omega))
  rw [List.filter_map, List.length_map] at count
  have same : (fun row : Bigint × α => decide (planned.Owns row.1)) =
      (fun number : Int => decide ((planned.start.toNat : Int) ≤ number ∧
        number ≤ planned.stop.toNat)) ∘ fun row => row.1.val := rfl
  rw [same, count]
  omega

/-- A passed verification proves range ownership exactly when the source has
no id beyond the plan. -/
theorem passed_owns_ranges {rows : UInt64} {partitions : UInt16}
    {workers : UInt8} {width : UInt64}
    (accepted : validateShape rows partitions workers = .ok width)
    {plan : List Assignment} (built : assignments rows partitions = .ok plan)
    {source : SourceTable} {destination : Destination} {runName : String}
    {sha256 : Bytes → Vector UInt8 32}
    (noCollision : ∀ expected, expectedRows source width = .ok expected →
      NoCollision sha256 expected (destination runName).entries)
    {verification : BusinessVerification}
    (verified : verifyBusiness sha256 source destination runName rows
      partitions width = .ok verification)
    (passed : verification.passed rows = true) :
    ((∀ id row, (destination runName).get? id = some row →
        ∃ planned ∈ plan, planned.key = row.partitionKey ∧
          planned.Owns id) ∧
      ∀ planned ∈ plan, ((destination runName).entries.filter
        (fun row => row.2.partitionKey = planned.key ∧
          planned.Owns row.1)).length = width.toNat) ↔
      ∀ id, (source.get? id).isSome →
        1 ≤ id.val ∧ id.val ≤ rows.toNat := by
  have shape := (validateShape_eq_ok.mp accepted).1
  have isPlan := (assignments_eq_ok shape).mp built
  obtain ⟨total, computed⟩ :=
    verified_passed shape noCollision verified passed
  have ids := fun id => destination_ids computed rfl id
  constructor
  · intro owned id present
    obtain ⟨row, found⟩ := (ids id).mp present
    obtain ⟨planned, member, _, owns⟩ := owned.1 id row found
    have counted := counted_of_owns isPlan member owns
    have range := (isPlan.union_iff shape id.val.toNat).mp
      ⟨planned, member, (owns_iff counted).mp owns⟩
    omega
  · intro bounded
    have owner : ∀ id row, (destination runName).get? id = some row →
        ∃ planned ∈ plan, planned.key = row.partitionKey ∧
          planned.Owns id := by
      intro id row found
      have range := bounded id ((ids id).mpr ⟨row, found⟩)
      obtain ⟨planned, member, owns, only⟩ :=
        isPlan.owner shape range.1 range.2
      obtain ⟨origin, _, same⟩ := exists_of_forall₂
        (expectedRows_related computed) (OrderedMap.get?_eq_some.mp found)
      obtain ⟨sameId, index, computes, _, key⟩ := expectedRow_eq_ok.mp same
      simp only at sameId key
      rw [← sameId, owns] at computes
      cases computes
      refine ⟨planned, member, ?_, (owns_iff range.1).mpr
        ((only planned member).mpr rfl)⟩
      rw [isPlan.keyed planned member, key]
    refine ⟨owner, ?_⟩
    intro planned member
    have sameKey : ∀ row ∈ (destination runName).entries,
        decide (row.2.partitionKey = planned.key ∧ planned.Owns row.1) =
          decide (planned.Owns row.1) := by
      intro row listed
      apply decide_eq_decide.mpr
      constructor
      · intro both
        exact both.2
      · intro owns
        obtain ⟨other, inPlan, key, otherOwns⟩ :=
          owner row.1 row.2 (OrderedMap.get?_eq_some.mpr listed)
        have equal := eq_of_owns shape isPlan member inPlan owns otherOwns
        rw [equal]
        exact ⟨key.symm, otherOwns⟩
    rw [List.filter_congr sameKey]
    apply owned_count shape isPlan ?_ ?_ member
    · rw [expectedRows_length computed, total]
    · intro row listed
      exact bounded row.1
        ((ids row.1).mpr ⟨row.2, OrderedMap.get?_eq_some.mpr listed⟩)

theorem passed_owns_ranges_four :
    ∃ verification,
      verifyBusiness Sha256.digest fourRows (fun _ => fourWritten) "run" 4 2
          2 = .ok verification ∧
        verification.passed 4 = true ∧
        ∀ id row, fourWritten.get? id = some row →
          ∃ planned ∈ twoRanges, planned.key = row.partitionKey ∧
            planned.Owns id := by
  have accepted : validateShape 4 2 1 = .ok 2 := by decide
  have computed : expectedRows fourRows 2 = .ok fourWritten.entries := by
    decide
  have noCollision : ∀ expected, expectedRows fourRows 2 = .ok expected →
      NoCollision Sha256.digest expected fourWritten.entries := by
    intro expected same _
    rw [computed] at same
    cases same
    rfl
  obtain ⟨verification, verified, verdict⟩ :=
    @verifyBusiness_passed Sha256.digest fourRows (fun _ => fourWritten) "run"
      4 2 2 fourWritten.entries (validateShape_eq_ok.mp accepted).1 computed
      (noCollision _ computed)
  have passed := verdict.mpr ⟨by decide, rfl⟩
  refine ⟨verification, verified, passed, ?_⟩
  have bounded : ∀ id, (fourRows.get? id).isSome →
      1 ≤ id.val ∧ id.val ≤ (4 : UInt64).toNat := by
    intro id present
    obtain ⟨payload, found⟩ := Option.isSome_iff_exists.mp present
    have each : ∀ row ∈ fourRows.entries,
        1 ≤ row.1.val ∧ row.1.val ≤ (4 : UInt64).toNat := by decide
    exact each (id, payload) (OrderedMap.get?_eq_some.mp found)
  have built : assignments 4 2 = .ok twoRanges := by decide
  exact ((@passed_owns_ranges 4 2 1 2 accepted twoRanges built fourRows
    (fun _ => fourWritten) "run" Sha256.digest noCollision verification
    verified passed).mpr bounded).1

/-- A source of four rows with a gap, and the rows that a destination needs to
pass. -/
def gapRows : SourceTable :=
  { entries := [(small 1, small 10), (small 2, small 20), (small 3, small 30),
      (small 5, small 5)]
    sorted := by decide }

def gapWritten : RunRows :=
  { entries :=
      [(small 1, { projectedValue := small 37
                   partitionKey := "partition-0000" }),
        (small 2, { projectedValue := small 67
                    partitionKey := "partition-0000" }),
        (small 3, { projectedValue := small 97
                    partitionKey := "partition-0001" }),
        (small 5, { projectedValue := small 22
                    partitionKey := "partition-0002" })]
    sorted := by decide }

/-- The verification passes although no planned range owns id 5. -/
theorem gap_passes :
    validateShape 4 2 1 = .ok 2 ∧ assignments 4 2 = .ok twoRanges ∧
      (∃ verification,
        verifyBusiness Sha256.digest gapRows (fun _ => gapWritten) "run" 4 2
            2 = .ok verification ∧ verification.passed 4 = true) ∧
      gapWritten.get? (small 5) = some
        { projectedValue := small 22, partitionKey := "partition-0002" } ∧
      ∀ planned ∈ twoRanges, planned.key ≠ "partition-0002" ∧
        ¬ planned.Owns (small 5) := by
  have accepted : validateShape 4 2 1 = .ok 2 := by decide
  have computed : expectedRows gapRows 2 = .ok gapWritten.entries := by
    decide
  refine ⟨accepted, by decide, ?_, by decide, by decide⟩
  have same : NoCollision Sha256.digest gapWritten.entries
      gapWritten.entries := fun _ => rfl
  obtain ⟨verification, verified, verdict⟩ :=
    @verifyBusiness_passed Sha256.digest gapRows (fun _ => gapWritten) "run"
      4 2 2 gapWritten.entries (validateShape_eq_ok.mp accepted).1 computed
      same
  exact ⟨verification, verified, verdict.mpr ⟨by decide, rfl⟩⟩

end Partition
