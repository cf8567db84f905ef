/-
A CSV data set is what its rows, its seed and its offset name, and an
injection changes one line of it or adds one.

The rows are drawn alike whatever is injected: an injection says how a row is
written, never how it is drawn.  So one list of rows stands behind all files,
and a file consists of the blocks of its rows.
-/

import OxideWorkloads.Generator.CsvDatasetLines
import OxideWorkloads.Generator.SeedExact

namespace Generator

open Foundation
open Foundation.LineLog (Bytes)
open Foundation.Json (utf8)
open CsvImport (Platform DateTime minUtc maxUtc)
open PostgresPostgres (indicesFrom indicesFrom_length indicesFrom_append)

namespace CsvPostgres

/-! ### The calendar and the parser -/

/-- A whole second of the years 0 to 9999. -/
def FourDigitYear (instant : DateTime) : Prop :=
  -62167219200 ≤ instant.seconds ∧ instant.seconds ≤ 253402300799 ∧
    instant.nanoseconds = 0

/-- The calendar renders such a second in the format of RFC 3339, which it
reads back. -/
structure Rfc3339 (platform : Platform) : Prop where
  plain : ∀ instant, FourDigitYear instant →
    PlainField (platform.toRfc3339 instant)
  readsBack : ∀ instant, FourDigitYear instant →
    platform.parseDateTime (platform.toRfc3339 instant) = some instant

/-- The parser reads standard CSV: of a text of simple characters, the
records, if they all have the same number of fields and none is blank. -/
def ReadsStandard (platform : Platform) : Prop :=
  ∀ text records, (∀ char ∈ text, Simple char) →
    standard.parse text = some records →
    (∃ size, 1 < size ∧ ∀ record ∈ records, record.length = size) →
      platform.records (utf8 (String.ofList text)) =
        records.map fun record => .ok (record.map String.ofList)

/-! ### The rows -/

/-- So many rows stay within the years of four digits. -/
def mostRows : Nat := 200000000000

/-- What a row is known to have. -/
structure RowOf (idOffset rowIndex : UInt64) (row : BaseRow) : Prop where
  customerId : row.customerId = idOffset + rowIndex
  name : PlainField row.name
  email : row.email = emailOf row.customerId
  amount : 100 ≤ row.amount.toInt ∧ row.amount.toInt < 1000000
  createdAt : row.createdAt.seconds = base.seconds + rowIndex.toNat ∧
    row.createdAt.nanoseconds = 0

theorem toInt64_toInt {value : UInt64} (small : value.toNat < 2 ^ 63) :
    value.toInt64.toInt = (value.toNat : Int) := by
  change value.toBitVec.toInt = _
  rw [BitVec.toInt_eq_toNat_of_lt]
  · rfl
  · change 2 * value.toNat < 2 ^ 64
    omega

theorem addSeconds_base {rowIndex : UInt64}
    (few : rowIndex.toNat ≤ mostRows) :
    ∃ instant, addSeconds base rowIndex.toInt64.toInt = some instant ∧
      instant.seconds = base.seconds + rowIndex.toNat ∧
      instant.nanoseconds = 0 := by
  have most : mostRows = 200000000000 := rfl
  have first : base.seconds = 1767225600 := rfl
  have inside : minUtc ≤ base.seconds + (rowIndex.toNat : Int) ∧
      base.seconds + (rowIndex.toNat : Int) ≤ maxUtc := by
    unfold minUtc maxUtc
    omega
  rw [toInt64_toInt (by omega)]
  unfold addSeconds
  rw [dif_pos inside]
  exact ⟨_, rfl, rfl, rfl⟩

theorem names_plain : (firstNames ++ lastNames).all
    (fun name => name.toList.all isFieldChar) = true := by
  decide +kernel

theorem plainField_name {name : String}
    (listed : name ∈ firstNames ++ lastNames) : PlainField name :=
  List.all_eq_true.mp (List.all_eq_true.mp names_plain name listed)

variable {ρ : Type}

theorem baseRow_ends [Rng ρ] {rng : ρ} (lively : Lively rng)
    {rowIndex : UInt64} (few : rowIndex.toNat ≤ mostRows)
    (idOffset : UInt64) :
    ∃ row count enough, RowOf idOffset rowIndex row ∧
      ∀ fuel, enough ≤ fuel →
        baseRow fuel rng rowIndex idOffset =
          some (row, stateAt rng count) := by
  have inRange : rowIndex.toNat % firstNames.length < firstNames.length :=
    Nat.mod_lt _ (by decide)
  obtain ⟨index, one, enough, _, below, first⟩ :=
    @Lively.samples ρ _ rng lively 0 (UInt64.ofNat lastNames.length)
      (by decide)
  obtain ⟨amount, two, more, least, most, second⟩ :=
    @Lively.samples ρ _ _ (lively.later one) 100 1000000 (by decide)
  obtain ⟨createdAt, third, seconds, whole⟩ := addSeconds_base few
  rw [stateAt_stateAt] at second
  have named : index.toNat < lastNames.length :=
    UInt64.lt_iff_toNat_lt.mp below
  have low : 100 ≤ amount.toNat := UInt64.le_iff_toNat_le.mp least
  have high : amount.toNat < 1000000 := UInt64.lt_iff_toNat_lt.mp most
  have number := @toInt64_toInt amount (by omega)
  refine ⟨{
    customerId := idOffset + rowIndex
    name := firstNames[rowIndex.toNat % firstNames.length] ++ " " ++
      lastNames[index.toNat]
    email := emailOf (idOffset + rowIndex)
    amount := amount.toInt64
    createdAt }, one + two, max enough more, ?_, ?_⟩
  · constructor
    · rfl
    · have space : PlainField " " := List.all_eq_true.mp (by decide)
      have start := plainField_name
        (List.mem_append_left lastNames (List.getElem_mem inRange))
      have ending := plainField_name
        (List.mem_append_right firstNames (List.getElem_mem named))
      exact (start.append space).append ending
    · rfl
    · rw [number]
      omega
    · exact ⟨seconds, whole⟩
  · intro fuel large
    have firstOf := List.getElem?_eq_getElem inRange
    have lastOf := List.getElem?_eq_getElem named
    simp only [baseRow, firstOf, first fuel (by omega), lastOf,
      second fuel (by omega), third, Option.bind_eq_bind, Option.bind_some,
      Option.pure_def]

/-! ### The lines -/

section Lines

variable (platform : Platform) (rows : UInt64)
  (duplicateAt malformedAt badAmountAt : Option UInt64)

/-- The lines of some rows, the one before them being known. -/
def linesFrom (row : UInt64 → BaseRow) :
    List UInt64 → Option BaseRow → List String
  | [], _ => []
  | rowIndex :: rest, lastRow =>
      writeRow platform (variantAt rows rowIndex malformedAt badAmountAt)
          (row rowIndex) ::
        ((if duplicateAt = some rowIndex then
            lastRow.toList.map (writeRow platform .duplicateKey)
          else []) ++
          linesFrom row rest (some (row rowIndex)))

/-- The line of a row. -/
def lineAt (row : UInt64 → BaseRow) (rowIndex : UInt64) : String :=
  writeRow platform (variantAt rows rowIndex malformedAt badAmountAt)
    (row rowIndex)

/-- The line that is added behind the line of a row: the row before it. -/
def addedAt (row : UInt64 → BaseRow) (rowIndex : UInt64) : List String :=
  if duplicateAt = some rowIndex ∧ 1 < rowIndex then
    [writeRow platform .duplicateKey (row (rowIndex - 1))]
  else []

def fileLines (row : UInt64 → BaseRow) : List String :=
  (indicesFrom 1 rows.toNat).flatMap fun rowIndex =>
    lineAt platform rows malformedAt badAmountAt row rowIndex ::
      addedAt platform duplicateAt row rowIndex

def before (row : UInt64 → BaseRow) (rowIndex : UInt64) : Option BaseRow :=
  if 1 < rowIndex then some (row (rowIndex - 1)) else none

variable {platform rows duplicateAt malformedAt badAmountAt}

theorem linesFrom_congr {row other : UInt64 → BaseRow}
    {indices : List UInt64} (same : ∀ rowIndex ∈ indices,
      row rowIndex = other rowIndex) (lastRow : Option BaseRow) :
    linesFrom platform rows duplicateAt malformedAt badAmountAt row indices
        lastRow =
      linesFrom platform rows duplicateAt malformedAt badAmountAt other
        indices lastRow := by
  induction indices generalizing lastRow with
  | nil => rfl
  | cons rowIndex rest ih =>
      have head := same rowIndex List.mem_cons_self
      have tail := ih fun later member =>
        same later (List.mem_cons_of_mem _ member)
      rw [linesFrom, linesFrom, head, tail]

theorem indicesFrom_succ (start : UInt64) (count : Nat) :
    indicesFrom start (count + 1) =
      start :: indicesFrom (start + 1) count := by
  rw [Nat.add_comm, indicesFrom_append]
  have single : indicesFrom start 1 = [start] := by
    unfold indicesFrom
    rw [List.range_one, List.map_singleton]
    exact congrArg (fun first => [first]) (UInt64.add_zero start)
  rw [single, List.singleton_append]
  rfl

/-- The added line repeats the row that has been remembered. -/
theorem repeated_before (row : UInt64 → BaseRow) (rowIndex : UInt64) :
    (if duplicateAt = some rowIndex then
        (before row rowIndex).toList.map (writeRow platform .duplicateKey)
      else []) =
      addedAt platform duplicateAt row rowIndex := by
  unfold before addedAt
  by_cases here : duplicateAt = some rowIndex
  · by_cases later : 1 < rowIndex
    · rw [if_pos here, if_pos later, if_pos ⟨here, later⟩]
      rfl
    · rw [if_pos here, if_neg later, if_neg (fun both => later both.2)]
      rfl
  · rw [if_neg here, if_neg (fun both => here both.1)]

theorem linesFrom_eq (row : UInt64 → BaseRow) {start : UInt64} {count : Nat}
    (first : 1 ≤ start) (bounded : start.toNat + count ≤ 2 ^ 64) :
    linesFrom platform rows duplicateAt malformedAt badAmountAt row
        (indicesFrom start count) (before row start) =
      (indicesFrom start count).flatMap fun rowIndex =>
        lineAt platform rows malformedAt badAmountAt row rowIndex ::
          addedAt platform duplicateAt row rowIndex := by
  induction count generalizing start with
  | zero => rfl
  | succ count ih =>
      rw [indicesFrom_succ, linesFrom, repeated_before, List.flatMap_cons,
        List.cons_append]
      cases count with
      | zero => rfl
      | succ count =>
          have least := UInt64.le_iff_toNat_le.mp first
          rw [UInt64.toNat_one] at least
          have next : (start + 1).toNat = start.toNat + 1 := by
            rw [UInt64.toNat_add, UInt64.toNat_one,
              Nat.mod_eq_of_lt (by omega)]
          have onward : 1 < start + 1 := by
            rw [UInt64.lt_iff_toNat_lt, next, UInt64.toNat_one]
            omega
          have remembered : some (row start) = before row (start + 1) := by
            unfold before
            rw [if_pos onward, UInt64.add_sub_cancel]
          rw [remembered, ih (UInt64.le_of_lt onward) (by omega)]
          rfl

end Lines

/-- On a lively stream there is a row for every index, and the lines are
those of the rows, whatever is injected. -/
theorem generateLoop_ends [SeedableRng ρ] {rng : ρ} (lively : Lively rng)
    {indices : List UInt64} (distinct : indices.Nodup)
    (few : ∀ rowIndex ∈ indices, rowIndex.toNat ≤ mostRows)
    (platform : Platform) (rows idOffset : UInt64) :
    ∃ row enough,
      (∀ rowIndex ∈ indices, RowOf idOffset rowIndex (row rowIndex)) ∧
      ∀ fuel, enough ≤ fuel →
        ∀ duplicateAt malformedAt badAmountAt lastRow,
          generateLoop fuel platform rows duplicateAt malformedAt badAmountAt
              idOffset indices rng lastRow =
            some (linesFrom platform rows duplicateAt malformedAt
              badAmountAt row indices lastRow) := by
  induction indices generalizing rng with
  | nil => exact ⟨fun _ => ⟨0, "", "", 0, base⟩, 0, fun _ member =>
      absurd member List.not_mem_nil, fun _ _ _ _ _ _ => rfl⟩
  | cons rowIndex rest ih =>
      rw [List.nodup_cons] at distinct
      obtain ⟨head, count, enough, own, drawn⟩ :=
        baseRow_ends lively (few rowIndex List.mem_cons_self) idOffset
      obtain ⟨others, more, owned, generated⟩ :=
        ih (lively.later count) distinct.2 fun later member =>
          few later (List.mem_cons_of_mem _ member)
      let row := Function.update others rowIndex head
      have here : row rowIndex = head := Function.update_self _ _ _
      have later : ∀ index ∈ rest, row index = others index := by
        intro index member
        apply Function.update_of_ne
        intro same
        rw [same] at member
        exact distinct.1 member
      refine ⟨row, max enough more, ?_, ?_⟩
      · intro index member
        rcases List.mem_cons.mp member with atHead | inRest
        · rw [atHead, here]
          exact own
        · rw [later index inRest]
          exact owned index inRest
      · intro fuel large duplicateAt malformedAt badAmountAt lastRow
        rw [generateLoop, linesFrom, here, linesFrom_congr later]
        simp only [drawn fuel (by omega),
          generated fuel (by omega) duplicateAt malformedAt badAmountAt,
          Option.bind_eq_bind, Option.bind_some, Option.pure_def]

/-! ### A file without injections -/

/-- The name that a row shows: two rows have special names, and the first
special name of a row is the one it gets. -/
def nameShown (rows rowIndex : UInt64) (name : String) : String :=
  if 5 ≤ rows ∧ rows / 5 = rowIndex then "Smith, " ++ name
  else if 4 ≤ rows ∧ rows / 4 = rowIndex then name ++ " \"the great\""
  else name

/-- The fields of a row. -/
def plainFields (platform : Platform) (rows : UInt64)
    (row : UInt64 → BaseRow) (rowIndex : UInt64) : List String :=
  [Text.decimal (row rowIndex).customerId.toNat,
    nameShown rows rowIndex (row rowIndex).name, (row rowIndex).email,
    Text.signed (row rowIndex).amount.toInt,
    platform.toRfc3339 (row rowIndex).createdAt]

theorem find_optional (present : Prop) [Decidable present]
    (position rowIndex : UInt64) (variant : RowVariant) :
    ((if present then [(position, variant)] else []).find? fun edge =>
        edge.1 = rowIndex) =
      if present ∧ position = rowIndex then some (position, variant)
      else none := by
  by_cases here : present
  · by_cases found : position = rowIndex
    · rw [if_pos here, if_pos ⟨here, found⟩]
      exact List.find?_cons_of_pos (decide_eq_true found)
    · rw [if_pos here, if_neg (fun both => found both.2)]
      exact List.find?_cons_of_neg
        (fun same => found (of_decide_eq_true same))
  · rw [if_neg here, if_neg (fun both => here both.1)]
    rfl

/-- Without injections a row is written as its special case, if it has one. -/
theorem variantAt_none (rows rowIndex : UInt64) :
    variantAt rows rowIndex none none =
      if 5 ≤ rows ∧ rows / 5 = rowIndex then .quotedField
      else if 4 ≤ rows ∧ rows / 4 = rowIndex then .escapedQuoteField
      else .normal := by
  have absent : ¬none = some rowIndex := (Option.some_ne_none rowIndex).symm
  unfold variantAt edgeCasePlan
  rw [List.find?_append, find_optional, find_optional, if_neg absent,
    if_neg absent]
  by_cases five : 5 ≤ rows ∧ rows / 5 = rowIndex
  · rw [if_pos five, if_pos five]
    rfl
  · rw [if_neg five, if_neg five]
    by_cases four : 4 ≤ rows ∧ rows / 4 = rowIndex
    · rw [if_pos four, if_pos four]
      rfl
    · rw [if_neg four, if_neg four]
      rfl

/-- No row is short or spoiled then. -/
theorem variantAt_whole (rows rowIndex : UInt64) :
    variantAt rows rowIndex none none ≠ .malformedFieldCount ∧
      variantAt rows rowIndex none none ≠ .malformedAmount ∧
      ∀ name, shownName (variantAt rows rowIndex none none) name =
        nameShown rows rowIndex name := by
  rw [variantAt_none]
  unfold nameShown
  by_cases five : 5 ≤ rows ∧ rows / 5 = rowIndex
  · rw [if_pos five]
    refine ⟨RowVariant.noConfusion, RowVariant.noConfusion, ?_⟩
    intro name
    rw [if_pos five]
    rfl
  · rw [if_neg five]
    by_cases four : 4 ≤ rows ∧ rows / 4 = rowIndex
    · rw [if_pos four]
      refine ⟨RowVariant.noConfusion, RowVariant.noConfusion, ?_⟩
      intro name
      rw [if_neg five, if_pos four]
      rfl
    · rw [if_neg four]
      refine ⟨RowVariant.noConfusion, RowVariant.noConfusion, ?_⟩
      intro name
      rw [if_neg five, if_neg four]
      rfl

theorem shownFields_plain (platform : Platform) (rows : UInt64)
    (row : UInt64 → BaseRow) (rowIndex : UInt64) :
    shownFields platform (variantAt rows rowIndex none none) (row rowIndex) =
      plainFields platform rows row rowIndex := by
  obtain ⟨fieldCount, number, name⟩ := variantAt_whole rows rowIndex
  rw [shownFields_whole fieldCount number, name]
  rfl

section Clean

variable {platform : Platform} {rows idOffset rowIndex : UInt64}
  {row : UInt64 → BaseRow}

theorem RowOf.fourDigitYear {own : BaseRow} (of : RowOf idOffset rowIndex own)
    (few : rowIndex.toNat ≤ mostRows) : FourDigitYear own.createdAt := by
  have most : mostRows = 200000000000 := rfl
  have first : base.seconds = 1767225600 := rfl
  have second := of.createdAt.1
  refine ⟨?_, ?_, of.createdAt.2⟩
  · omega
  · omega

theorem RowOf.plainRow {own : BaseRow} (of : RowOf idOffset rowIndex own)
    (calendar : Rfc3339 platform) (few : rowIndex.toNat ≤ mostRows) :
    PlainRow platform own := by
  constructor
  · exact of.name
  · rw [of.email]
    exact plainField_emailOf _
  · exact calendar.plain _ (of.fourDigitYear few)

/-- Every row of a file is one of a few plain rows. -/
structure PlainRows (platform : Platform) (rows idOffset : UInt64)
    (row : UInt64 → BaseRow) : Prop where
  few : rows.toNat ≤ mostRows
  fits : (idOffset.toNat + rows.toNat : Int) ≤ i64Max
  own : ∀ rowIndex ∈ indicesFrom 1 rows.toNat,
    RowOf idOffset rowIndex (row rowIndex)

theorem mem_indices (limit : rows.toNat < 2 ^ 64 - 1) :
    rowIndex ∈ indicesFrom 1 rows.toNat ↔
      1 ≤ rowIndex.toNat ∧ rowIndex.toNat ≤ rows.toNat := by
  have number : ∀ offset < rows.toNat,
      (1 + UInt64.ofNat offset).toNat = 1 + offset := by
    intro offset below
    rw [UInt64.toNat_add, UInt64.toNat_one, UInt64.toNat_ofNat_of_lt' (by
      rw [UInt64.size]
      omega), Nat.mod_eq_of_lt (by omega)]
  unfold indicesFrom
  rw [List.mem_map]
  constructor
  · intro listed
    obtain ⟨offset, below, rfl⟩ := listed
    rw [List.mem_range] at below
    rw [number offset below]
    omega
  · intro range
    refine ⟨rowIndex.toNat - 1, List.mem_range.mpr (by omega), ?_⟩
    rw [← UInt64.toNat_inj, number _ (by omega)]
    omega

namespace PlainRows

variable (plain : PlainRows platform rows idOffset row)

include plain

theorem limit : rows.toNat < 2 ^ 64 - 1 := by
  have most : mostRows = 200000000000 := rfl
  have few := plain.few
  omega

theorem index_few (listed : rowIndex ∈ indicesFrom 1 rows.toNat) :
    rowIndex.toNat ≤ mostRows :=
  Nat.le_trans ((mem_indices plain.limit).mp listed).2 plain.few

theorem plainRow (calendar : Rfc3339 platform)
    (listed : rowIndex ∈ indicesFrom 1 rows.toNat) :
    PlainRow platform (row rowIndex) :=
  (plain.own rowIndex listed).plainRow calendar (plain.index_few listed)

/-- The ids count on from the offset. -/
theorem customerId (listed : rowIndex ∈ indicesFrom 1 rows.toNat) :
    (row rowIndex).customerId.toNat = idOffset.toNat + rowIndex.toNat := by
  have most : i64Max = 9223372036854775807 := rfl
  have range := (mem_indices plain.limit).mp listed
  have fits := plain.fits
  rw [(plain.own rowIndex listed).customerId, UInt64.toNat_add,
    Nat.mod_eq_of_lt (by omega)]

/-- The lines of some of the rows are read back. -/
theorem parse_lines (calendar : Rfc3339 platform) {indices : List UInt64}
    (listed : ∀ rowIndex ∈ indices, rowIndex ∈ indicesFrom 1 rows.toNat)
    (variant : UInt64 → RowVariant) :
    standard.parse (String.join (indices.map fun rowIndex =>
        writeRow platform (variant rowIndex) (row rowIndex))).toList =
      some (indices.map fun rowIndex =>
        (shownFields platform (variant rowIndex) (row rowIndex)).map
          String.toList) := by
  have shown : List.Forall₂ standard.Shows
      (indices.map fun rowIndex =>
        (shownFields platform (variant rowIndex) (row rowIndex)).map
          String.toList)
      (indices.map fun rowIndex =>
        (writeRow platform (variant rowIndex) (row rowIndex)).toList) := by
    rw [List.forall₂_map_left_iff, List.forall₂_map_right_iff,
      List.forall₂_same]
    intro rowIndex member
    exact writeRow_shows (plain.plainRow calendar (listed rowIndex member)) _
  have parsed := Csv.Dialect.parse_shows shown
  rw [String.toList_join, List.flatMap_map]
  exact parsed

/-- The numbers of a row are 64-bit integers. -/
theorem words (listed : rowIndex ∈ indicesFrom 1 rows.toNat) :
    ∃ id amount : Bigint, id.val = ((row rowIndex).customerId.toNat : Int) ∧
      amount.val = (row rowIndex).amount.toInt := by
  have most : i64Max = 9223372036854775807 := rfl
  have least : i64Min = -9223372036854775808 := rfl
  have fits := plain.fits
  have number := plain.customerId listed
  have range := (mem_indices plain.limit).mp listed
  have amount := (plain.own rowIndex listed).amount
  exact ⟨⟨(row rowIndex).customerId.toNat, by omega⟩,
    ⟨(row rowIndex).amount.toInt, by omega⟩, rfl, rfl⟩

theorem readsBack (calendar : Rfc3339 platform)
    (listed : rowIndex ∈ indicesFrom 1 rows.toNat) :
    platform.parseDateTime
        (platform.toRfc3339 (row rowIndex).createdAt) =
      some (row rowIndex).createdAt :=
  calendar.readsBack _
    ((plain.own rowIndex listed).fourDigitYear (plain.index_few listed))

/-- The processor accepts a row. -/
theorem process_plain (calendar : Rfc3339 platform)
    (listed : rowIndex ∈ indicesFrom 1 rows.toNat) :
    ∃ customer, CsvImport.process platform
        (plainFields platform rows row rowIndex) = .ok customer ∧
      customer.customerId.val = idOffset.toNat + (rowIndex.toNat : Int) ∧
      customer.name = nameShown rows rowIndex (row rowIndex).name := by
  obtain ⟨id, amount, sameId, sameAmount⟩ := plain.words listed
  obtain ⟨fieldCount, number, name⟩ := variantAt_whole rows rowIndex
  have accepted := process_shown fieldCount number sameId sameAmount
    (plain.readsBack calendar listed)
  rw [shownFields_plain] at accepted
  refine ⟨_, accepted, ?_, name _⟩
  rw [sameId, plain.customerId listed]
  exact Int.natCast_add _ _

/-- So does the verifier. -/
theorem recordRow_plain (calendar : Rfc3339 platform)
    (listed : rowIndex ∈ indicesFrom 1 rows.toNat) :
    ∃ imported, CsvImport.recordRow platform
        (.ok (plainFields platform rows row rowIndex)) = some imported ∧
      imported.customerId.val = idOffset.toNat + (rowIndex.toNat : Int) := by
  obtain ⟨id, amount, sameId, sameAmount⟩ := plain.words listed
  obtain ⟨fieldCount, number, _⟩ := variantAt_whole rows rowIndex
  have accepted := recordRow_shown fieldCount number sameId sameAmount
    (plain.readsBack calendar listed)
  rw [shownFields_plain] at accepted
  refine ⟨_, accepted, ?_⟩
  rw [sameId, plain.customerId listed]
  exact Int.natCast_add _ _

end PlainRows

end Clean

/-- Values that are found one after another. -/
theorem mapM_related {α β : Type} {find : α → Option β}
    {holds : α → β → Prop} {items : List α}
    (each : ∀ item ∈ items, ∃ value, find item = some value ∧
      holds item value) :
    ∃ values, items.mapM find = some values ∧
      List.Forall₂ holds items values := by
  induction items with
  | nil => exact ⟨[], rfl, .nil⟩
  | cons item rest ih =>
      obtain ⟨value, found, first⟩ := each item List.mem_cons_self
      obtain ⟨values, others, later⟩ := ih fun other member =>
        each other (List.mem_cons_of_mem _ member)
      refine ⟨value :: values, ?_, .cons first later⟩
      rw [List.mapM_cons, found, others]
      rfl

theorem indices_ascend {rows : UInt64} (limit : rows.toNat < 2 ^ 64 - 1) :
    (indicesFrom 1 rows.toNat).Pairwise
      fun earlier later => earlier.toNat < later.toNat := by
  unfold indicesFrom
  rw [List.pairwise_map]
  apply List.pairwise_lt_range.imp_of_mem
  intro earlier later earlierIn laterIn ascends
  rw [List.mem_range] at earlierIn laterIn
  rw [UInt64.toNat_add, UInt64.toNat_add, UInt64.toNat_one,
    UInt64.toNat_ofNat_of_lt' (by
      rw [UInt64.size]
      omega), UInt64.toNat_ofNat_of_lt' (by
      rw [UInt64.size]
      omega), Nat.mod_eq_of_lt (by omega), Nat.mod_eq_of_lt (by omega)]
  omega

section Files

variable {platform : Platform} {rows idOffset : UInt64}
  {row : UInt64 → BaseRow}

/-- The line of a row in a file without injections. -/
def plainLine (platform : Platform) (rows : UInt64) (row : UInt64 → BaseRow)
    (rowIndex : UInt64) : String :=
  lineAt platform rows none none row rowIndex

/-- A file without injections. -/
def plainFile (platform : Platform) (rows : UInt64) (row : UInt64 → BaseRow) :
    String :=
  String.join ((indicesFrom 1 rows.toNat).map (plainLine platform rows row))

theorem parse_plainFile (plain : PlainRows platform rows idOffset row)
    (calendar : Rfc3339 platform) :
    standard.parse (plainFile platform rows row).toList =
      some ((indicesFrom 1 rows.toNat).map fun rowIndex =>
        (plainFields platform rows row rowIndex).map String.toList) := by
  have parsed := plain.parse_lines calendar (fun _ listed => listed)
    fun rowIndex => variantAt rows rowIndex none none
  simp only [shownFields_plain] at parsed
  exact parsed

theorem plainFile_simple (plain : PlainRows platform rows idOffset row)
    (calendar : Rfc3339 platform) :
    ∀ char ∈ (plainFile platform rows row).toList, Simple char := by
  intro char member
  unfold plainFile at member
  rw [String.toList_join] at member
  obtain ⟨line, listed, inside⟩ := List.mem_flatMap.mp member
  obtain ⟨rowIndex, index, rfl⟩ := List.mem_map.mp listed
  exact writeRow_simple (plain.plainRow calendar index) _ char inside

/-- The verifier digests the file, with as many rows as it has. -/
theorem digest_plainFile (plain : PlainRows platform rows idOffset row)
    (calendar : Rfc3339 platform) (reader : ReadsStandard platform) :
    ∃ digest, CsvImport.sourceDigest platform
      (utf8 (plainFile platform rows row)) = .ok (rows.toNat, digest) := by
  have records := reader _ _ (plainFile_simple plain calendar)
    (parse_plainFile plain calendar) ⟨5, by decide, by
      intro record member
      obtain ⟨rowIndex, _, rfl⟩ := List.mem_map.mp member
      rfl⟩
  rw [String.ofList_toList, List.map_map] at records
  have back : ∀ fields : List String,
      (fields.map String.toList).map String.ofList = fields := by
    intro fields
    rw [List.map_map]
    exact List.map_id'' (fun _ => String.ofList_toList) _
  obtain ⟨imported, found, related⟩ := mapM_related
    (fun rowIndex listed => plain.recordRow_plain calendar listed)
  have fileRows : CsvImport.fileRows platform
      (utf8 (plainFile platform rows row)) = some imported := by
    unfold CsvImport.fileRows
    rw [records, List.mapM_map]
    simp only [Function.comp_def, back]
    exact found
  have ids : imported.map (fun one => one.customerId.val) =
      (indicesFrom 1 rows.toNat).map
        fun rowIndex => (idOffset.toNat : Int) + rowIndex.toNat :=
    Checks.map_eq_of_forall₂ related
  have ascends : (imported.map (fun one => one.customerId.val)).Pairwise
      (fun earlier later => earlier < later) := by
    rw [ids, List.pairwise_map]
    apply (indices_ascend plain.limit).imp
    intro earlier later below
    omega
  refine ⟨_, CsvImport.sourceDigest_eq_ok.mpr
    ⟨imported, fileRows, List.pairwise_map.mp ascends, ?_, rfl⟩⟩
  rw [← related.length_eq, indicesFrom_length]

/-! ### A file with injections -/

/-- What one row has in a file with injections: a line that is another one
just if an injection is aimed at it, and at most one line behind it. -/
structure InjectedAt (platform : Platform) (rows : UInt64)
    (row : UInt64 → BaseRow)
    (duplicateAt malformedAt badAmountAt : Option UInt64)
    (rowIndex : UInt64) (line : String) (added : List String) : Prop where
  malformed : malformedAt = some rowIndex →
    Reads line [Text.decimal (row rowIndex).customerId.toNat,
      (row rowIndex).name, (row rowIndex).email,
      Text.signed (row rowIndex).amount.toInt]
  badAmount : malformedAt ≠ some rowIndex → badAmountAt = some rowIndex →
    CsvImport.parseI64 "NOT_A_NUMBER" = none ∧
      Reads line [Text.decimal (row rowIndex).customerId.toNat,
        (row rowIndex).name, (row rowIndex).email, "NOT_A_NUMBER",
        platform.toRfc3339 (row rowIndex).createdAt]
  untouched : malformedAt ≠ some rowIndex → badAmountAt ≠ some rowIndex →
    line = plainLine platform rows row rowIndex
  repeated : duplicateAt = some rowIndex → 1 < rowIndex →
    ∃ copy, added = [copy] ∧
      Reads copy [Text.decimal (row (rowIndex - 1)).customerId.toNat,
        (row (rowIndex - 1)).name, (row (rowIndex - 1)).email,
        Text.signed (row (rowIndex - 1)).amount.toInt,
        platform.toRfc3339 (row (rowIndex - 1)).createdAt]
  nothing : ¬(duplicateAt = some rowIndex ∧ 1 < rowIndex) → added = []

theorem injectedAt (plain : PlainRows platform rows idOffset row)
    (calendar : Rfc3339 platform)
    (duplicateAt malformedAt badAmountAt : Option UInt64)
    {rowIndex : UInt64} (listed : rowIndex ∈ indicesFrom 1 rows.toNat) :
    InjectedAt platform rows row duplicateAt malformedAt badAmountAt rowIndex
      (lineAt platform rows malformedAt badAmountAt row rowIndex)
      (addedAt platform duplicateAt row rowIndex) := by
  have reads := writeRow_reads (plain.plainRow calendar listed)
  unfold lineAt addedAt variantAt
  constructor
  · intro here
    rw [if_pos here]
    exact reads .malformedFieldCount
  · intro elsewhere here
    rw [if_neg elsewhere, if_pos here]
    exact ⟨by decide, reads .malformedAmount⟩
  · intro elsewhere other
    unfold plainLine lineAt variantAt
    have absent : ¬none = some rowIndex :=
      (Option.some_ne_none rowIndex).symm
    rw [if_neg elsewhere, if_neg other, if_neg absent, if_neg absent]
  · intro here later
    have previous : rowIndex - 1 ∈ indicesFrom 1 rows.toNat := by
      have range := (mem_indices plain.limit).mp listed
      have above := UInt64.lt_iff_toNat_lt.mp later
      rw [UInt64.toNat_one] at above
      rw [mem_indices plain.limit, UInt64.toNat_sub_of_le _ _
        (UInt64.le_of_lt later), UInt64.toNat_one]
      omega
    rw [if_pos ⟨here, later⟩]
    exact ⟨_, rfl, writeRow_reads (plain.plainRow calendar previous)
      .duplicateKey⟩
  · intro absent
    exact if_neg absent

end Files

/-- What is known of the files of one data set: their rows, the file without
injections, and what each injection makes of it. -/
structure DataSet (platform : Platform) (rows idOffset : UInt64)
    (row : UInt64 → BaseRow)
    (file : Option UInt64 → Option UInt64 → Option UInt64 → String) :
    Prop where
  own : ∀ rowIndex ∈ indicesFrom 1 rows.toNat,
    RowOf idOffset rowIndex (row rowIndex)
  ids : ∀ rowIndex ∈ indicesFrom 1 rows.toNat,
    (row rowIndex).customerId.toNat = idOffset.toNat + rowIndex.toNat
  records : standard.parse (file none none none).toList =
    some ((indicesFrom 1 rows.toNat).map fun rowIndex =>
      (plainFields platform rows row rowIndex).map String.toList)
  lines : file none none none = plainFile platform rows row ∧
    ∀ rowIndex ∈ indicesFrom 1 rows.toNat,
      Reads (plainLine platform rows row rowIndex)
        (plainFields platform rows row rowIndex)
  accepted : ∀ rowIndex ∈ indicesFrom 1 rows.toNat,
    ∃ customer, CsvImport.process platform
        (plainFields platform rows row rowIndex) = .ok customer ∧
      customer.customerId.val = idOffset.toNat + (rowIndex.toNat : Int) ∧
      customer.name = nameShown rows rowIndex (row rowIndex).name
  digested : ∃ digest, CsvImport.sourceDigest platform
    (utf8 (file none none none)) = .ok (rows.toNat, digest)
  injected : ∀ duplicateAt malformedAt badAmountAt,
    ∃ (line : UInt64 → String) (added : UInt64 → List String),
      file duplicateAt malformedAt badAmountAt =
        String.join ((indicesFrom 1 rows.toNat).flatMap fun rowIndex =>
          line rowIndex :: added rowIndex) ∧
      ∀ rowIndex ∈ indicesFrom 1 rows.toNat,
        InjectedAt platform rows row duplicateAt malformedAt badAmountAt
          rowIndex (line rowIndex) (added rowIndex)

theorem fileLines_none (platform : Platform) (rows : UInt64)
    (row : UInt64 → BaseRow) :
    String.join (fileLines platform rows none none none row) =
      plainFile platform rows row := by
  have nothing : ∀ rowIndex, addedAt platform none row rowIndex = [] := by
    intro rowIndex
    apply if_neg
    intro both
    exact Option.some_ne_none rowIndex both.1.symm
  unfold fileLines plainFile
  simp only [nothing]
  rw [List.map_eq_flatMap]
  rfl

theorem dataSet_of_plain {platform : Platform} {rows idOffset : UInt64}
    {row : UInt64 → BaseRow} (plain : PlainRows platform rows idOffset row)
    (calendar : Rfc3339 platform) (reader : ReadsStandard platform) :
    DataSet platform rows idOffset row
      fun duplicateAt malformedAt badAmountAt =>
        String.join (fileLines platform rows duplicateAt malformedAt
          badAmountAt row) := by
  have whole := fileLines_none platform rows row
  constructor
  · exact plain.own
  · intro rowIndex listed
    exact plain.customerId listed
  · rw [whole]
    exact parse_plainFile plain calendar
  · refine ⟨whole, ?_⟩
    intro rowIndex listed
    have reads := writeRow_reads (plain.plainRow calendar listed)
      (variantAt rows rowIndex none none)
    rw [shownFields_plain] at reads
    exact reads
  · intro rowIndex listed
    exact plain.process_plain calendar listed
  · rw [whole]
    exact digest_plainFile plain calendar reader
  · intro duplicateAt malformedAt badAmountAt
    exact ⟨_, _, rfl, fun rowIndex listed => injectedAt plain calendar
      duplicateAt malformedAt badAmountAt listed⟩

/-- The generator ends.  Without injections its file is the data set of the
rows, the seed and the offset; injections change and add the lines that they
name, and nothing else. -/
theorem generate_exact [SeedableRng ρ] {platform : Platform}
    {rows seed idOffset : UInt64} (few : rows.toNat ≤ mostRows)
    (fits : (idOffset.toNat + rows.toNat : Int) ≤ i64Max)
    (lively : Lively (SeedableRng.seedFromU64 seed : ρ))
    (calendar : Rfc3339 platform) (reader : ReadsStandard platform)
    (now : DateTime) :
    ∃ row file enough, DataSet platform rows idOffset row file ∧
      ∀ fuel, enough ≤ fuel → ∀ duplicateAt malformedAt badAmountAt,
        @generate ρ _ fuel platform now rows seed duplicateAt malformedAt
            badAmountAt idOffset =
          some (utf8 (file duplicateAt malformedAt badAmountAt),
            manifestOf platform now rows seed
              (utf8 (file duplicateAt malformedAt badAmountAt))) := by
  have most : mostRows = 200000000000 := rfl
  have limit : rows.toNat < 2 ^ 64 - 1 := by omega
  have distinct : (indicesFrom 1 rows.toNat).Nodup := by
    apply (indices_ascend limit).imp
    intro earlier later below same
    rw [same] at below
    exact Nat.lt_irrefl _ below
  have bounded : ∀ rowIndex ∈ indicesFrom 1 rows.toNat,
      rowIndex.toNat ≤ mostRows := by
    intro rowIndex listed
    exact Nat.le_trans ((mem_indices limit).mp listed).2 few
  obtain ⟨row, enough, own, generated⟩ :=
    generateLoop_ends lively distinct bounded platform rows idOffset
  have plain : PlainRows platform rows idOffset row := ⟨few, fits, own⟩
  refine ⟨row, _, enough, dataSet_of_plain plain calendar reader, ?_⟩
  intro fuel large duplicateAt malformedAt badAmountAt
  have first : before row 1 = none := if_neg (UInt64.lt_irrefl 1)
  have lines := @linesFrom_eq platform rows duplicateAt malformedAt
    badAmountAt row 1 rows.toNat (UInt64.le_refl 1) (by
      rw [UInt64.toNat_one]
      omega)
  rw [first] at lines
  unfold generate
  rw [generated fuel large duplicateAt malformedAt badAmountAt none, lines]
  rfl

/-! ### One data set -/

def minuteText (second : Nat) : String :=
  "2026-01-01T00:00:" ++ Text.zeroPadded 2 second ++ "+00:00"

theorem epoch_early : minUtc ≤ 0 := by
  unfold minUtc
  omega

theorem epoch_late : 0 ≤ maxUtc := by
  unfold maxUtc
  omega

theorem epoch_whole : 0 < 2000000000 := Nat.succ_pos _

def epoch : DateTime :=
  { seconds := 0
    nanoseconds := 0
    early := epoch_early
    late := epoch_late
    bounded := epoch_whole }

/-- The rendering of the first minute of 2026; other seconds are told apart
by numbers. -/
def minuteRfc3339 (instant : DateTime) : String :=
  if base.seconds ≤ instant.seconds ∧ instant.seconds < base.seconds + 60 then
    minuteText (instant.seconds - base.seconds).toNat
  else Text.signed instant.seconds

def minuteParse (text : String) : Option DateTime :=
  match (List.range 60).find? fun second => minuteText second = text with
  | some second => addSeconds base second
  | none => (Text.parseSigned text).bind (addSeconds epoch)

/-- A platform that knows standard CSV and one minute. -/
def minutePlatform : Platform :=
  { records := fun content =>
      (((JsonGrammar.decodeUtf8 content).bind fun text =>
        standard.parse text.toList).getD []).map fun record =>
          .ok (record.map String.ofList)
    parseDateTime := minuteParse
    toRfc3339 := minuteRfc3339
    sha256 := Sha256.digest }

theorem minuteText_plain (second : Nat) : PlainField (minuteText second) := by
  have start : PlainField "2026-01-01T00:00:" :=
    List.all_eq_true.mp (by decide +kernel)
  have ending : PlainField "+00:00" := List.all_eq_true.mp (by decide +kernel)
  have digits : PlainField (Text.zeroPadded 2 second) := by
    intro char member
    exact isFieldChar_of_isDigit (List.all_eq_true.mp
      (Text.zeroPadded_isAsciiDigits 2 second) char member)
  exact (start.append digits).append ending

theorem minuteText_injective {left right : Nat}
    (same : minuteText left = minuteText right) : left = right := by
  have chars := congrArg String.toList same
  unfold minuteText at chars
  simp only [String.toList_append, List.append_cancel_right_eq,
    List.append_cancel_left_eq] at chars
  exact Text.zeroPadded_injective (String.toList_inj.mp chars)

theorem minuteText_ne_signed (second : Nat) (value : Int) :
    minuteText second ≠ Text.signed value := by
  intro same
  have letter : 'T' ∈ (Text.signed value).toList := by
    rw [← same]
    unfold minuteText
    simp only [String.toList_append]
    exact List.mem_append_left _ (List.mem_append_left _ (by decide +kernel))
  rcases Text.signed_chars letter with minus | digit
  · exact absurd minus (by decide)
  · exact absurd digit (by decide)

/-- Seconds behind a whole instant lead to every whole instant. -/
theorem addSeconds_eq {start instant : DateTime} {seconds : Int}
    (sum : start.seconds + seconds = instant.seconds)
    (same : start.nanoseconds = instant.nanoseconds) :
    addSeconds start seconds = some instant := by
  have inside : minUtc ≤ start.seconds + seconds ∧
      start.seconds + seconds ≤ maxUtc := by
    rw [sum]
    exact ⟨instant.early, instant.late⟩
  unfold addSeconds
  rw [dif_pos inside]
  cases instant
  simp only [Option.some.injEq, DateTime.mk.injEq]
  exact ⟨sum, same⟩

theorem minutePlatform_calendar : Rfc3339 minutePlatform := by
  constructor
  · intro instant _
    change PlainField (minuteRfc3339 instant)
    unfold minuteRfc3339
    split
    · exact minuteText_plain _
    · exact plainField_signed _
  · intro instant year
    change minuteParse (minuteRfc3339 instant) = some instant
    have whole : instant.nanoseconds = 0 := year.2.2
    unfold minuteRfc3339
    split
    · rename_i minute
      have found : (List.range 60).find? (fun second => minuteText second =
          minuteText (instant.seconds - base.seconds).toNat) =
          some (instant.seconds - base.seconds).toNat := by
        rw [List.find?_range_eq_some]
        refine ⟨decide_eq_true rfl, List.mem_range.mpr (by omega), ?_⟩
        intro earlier below
        rw [Bool.not_eq_true', decide_eq_false_iff_not]
        intro same
        have equal := minuteText_injective same
        omega
      unfold minuteParse
      rw [found]
      apply addSeconds_eq
      · omega
      · exact whole.symm
    · have absent : (List.range 60).find? (fun second =>
          minuteText second = Text.signed instant.seconds) = none := by
        rw [List.find?_eq_none]
        intro second _ same
        exact minuteText_ne_signed _ _ (of_decide_eq_true same)
      unfold minuteParse
      rw [absent]
      simp only [Text.parseSigned_signed, Option.bind_some]
      apply addSeconds_eq
      · exact Int.zero_add _
      · exact whole.symm

theorem minutePlatform_reader : ReadsStandard minutePlatform := by
  intro text records _ parsed _
  change (((JsonGrammar.decodeUtf8 (utf8 (String.ofList text))).bind
    fun text => standard.parse text.toList).getD []).map _ = _
  rw [JsonGrammar.decodeUtf8_utf8, Option.bind_some, String.toList_ofList,
    parsed]
  rfl

/-- The draws that four rows of the seed 42 take. -/
@[reducible]
def nineDraws : SeedableRng Recording :=
  { nextU64 := Rng.nextU64
    seedFromU64 := fun seed =>
      { draws := if seed = 42 then
          [12578764544318200737, 17529487244874322312, 7886285670807131020,
            11572758976476374866, 5323617429756461744, 2766252901828231838,
            5682345367224914708, 14828835203913492612, 14227028876630821888]
        else [] } }

/-- Four rows, the second of which is made short and repeated. -/
example : @generateLoop Recording nineDraws 2 minutePlatform 4 (some 3)
    (some 2) none 100 (indicesFrom 1 4) (nineDraws.seedFromU64 42) none =
    some [
      "101,\"Bob Taylor \"\"the great\"\"\",customer101@example.test,427573,2026-01-01T00:00:01+00:00\n",
      "102,Carol Davis,customer102@example.test,288665\n",
      "103,Dave Johnson,customer103@example.test,308109,2026-01-01T00:00:03+00:00\n",
      "102,Carol Davis,customer102@example.test,288665,2026-01-01T00:00:02+00:00\n",
      "104,Erin Moore,customer104@example.test,771271,2026-01-01T00:00:04+00:00\n"] := by
  decide +kernel

theorem generate_exact_four :
    ∃ row file enough, DataSet minutePlatform 4 100 row file ∧
      ∀ fuel, enough ≤ fuel → ∀ duplicateAt malformedAt badAmountAt,
        @generate Recording nineDraws fuel minutePlatform base 4 42
            duplicateAt malformedAt badAmountAt 100 =
          some (utf8 (file duplicateAt malformedAt badAmountAt),
            manifestOf minutePlatform base 4 42
              (utf8 (file duplicateAt malformedAt badAmountAt))) :=
  @generate_exact Recording nineDraws minutePlatform 4 42 100 (by decide)
    (by decide) (Recording.lively (nineDraws.seedFromU64 42))
    minutePlatform_calendar minutePlatform_reader base

end CsvPostgres

end Generator
