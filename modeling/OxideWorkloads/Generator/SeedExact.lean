/-
Seeding in batches inserts the rows that one generator draws one after
another.

On a lively stream the rows of all indices exist, whatever the batches are.
The loop sends the chunks of this list, so where a batch ends matters neither
to the rows nor to the state of the generator.
-/

import OxideWorkloads.Generator.Seed

namespace Generator

open Foundation
open Foundation.Sending (sendAll)

namespace PostgresPostgres

/-! ### The statement of a batch -/

def groupTexts : List String := [", ", ", ", ", ", ")"]

theorem placeholderGroup_eq (param : Nat) :
    placeholderGroup param =
      "(" ++ Placeholders.numbered param groupTexts := by
  unfold placeholderGroup groupTexts
  simp only [Placeholders.numbered, String.append_assoc]
  rfl

theorem insertSql_numbers (rowCount : Nat) :
    Placeholders.numbers (insertSql rowCount).toList =
      List.range' 1 (columnsPerRow * rowCount) := by
  have plain : ∀ text ∈ groupTexts, Placeholders.Plain text.toList := by
    decide
  have free : '$' ∉ insertInto.toList := by decide +kernel
  have numbered := Placeholders.numbers_rows plain 1 rowCount
  rw [← funext placeholderGroup_eq] at numbered
  unfold insertSql
  rw [String.toList_append, Placeholders.numbers_free_append free]
  exact numbered

/-! ### The rows -/

section Rows

variable {ρ : Type} [Rng ρ]

theorem indicesFrom_length (rowIndex : UInt64) (batchLen : Nat) :
    (indicesFrom rowIndex batchLen).length = batchLen := by
  unfold indicesFrom
  rw [List.length_map, List.length_range]

theorem indicesFrom_append (rowIndex : UInt64) (first second : Nat) :
    indicesFrom rowIndex (first + second) =
      indicesFrom rowIndex first ++
        indicesFrom (rowIndex + UInt64.ofNat first) second := by
  unfold indicesFrom
  rw [List.range_add, List.map_append, List.map_map]
  congr 1
  apply List.map_congr_left
  intro offset _
  rw [Function.comp_apply, UInt64.ofNat_add, UInt64.add_assoc]

/-- Rows of indices in two parts are drawn part by part. -/
theorem generateRows_append (fuel : Nat) (idOffset : UInt64)
    (first second : List UInt64) (rng : ρ) :
    generateRows fuel idOffset (first ++ second) rng =
      (generateRows fuel idOffset first rng).bind fun head =>
        (generateRows fuel idOffset second head.2).map fun tail =>
          (head.1 ++ tail.1, tail.2) := by
  induction first generalizing rng with
  | nil =>
      rw [List.nil_append, generateRows, Option.bind_some]
      cases generateRows fuel idOffset second rng with
      | none => rfl
      | some tail => rfl
  | cons rowIndex rest ih =>
      rw [List.cons_append, generateRows, generateRows]
      cases generateRow fuel rng rowIndex idOffset with
      | none => rfl
      | some drawn =>
          change (generateRows fuel idOffset (rest ++ second) drawn.2).bind
            _ = ((generateRows fuel idOffset rest drawn.2).bind _).bind _
          rw [ih]
          cases generateRows fuel idOffset rest drawn.2 with
          | none => rfl
          | some head =>
              change ((generateRows fuel idOffset second head.2).map _).bind
                _ = (generateRows fuel idOffset second head.2).map _
              cases generateRows fuel idOffset second head.2 with
              | none => rfl
              | some tail => rfl

theorem generateRow_ends {rng : ρ} (lively : Lively rng)
    (rowIndex idOffset : UInt64) :
    ∃ row count enough,
      row.customerId = (idOffset + rowIndex).toInt64 ∧
      ∀ fuel, enough ≤ fuel →
        generateRow fuel rng rowIndex idOffset =
          some (row, stateAt rng count) := by
  have inRange : rowIndex.toNat % firstNames.length < firstNames.length :=
    Nat.mod_lt _ (by decide)
  obtain ⟨index, one, enough, _, below, first⟩ :=
    @Lively.samples ρ _ rng lively 0 (UInt64.ofNat lastNames.length)
      (by decide)
  obtain ⟨activity, two, more, _, _, second⟩ :=
    @Lively.samples ρ _ _ (lively.later one) 0 10 (by decide)
  obtain ⟨balance, three, most, _, _, third⟩ :=
    @Lively.samples ρ _ _ ((lively.later one).later two) 0 1000000
      (by decide)
  rw [stateAt_stateAt, stateAt_stateAt] at third
  rw [stateAt_stateAt] at second
  have named : index.toNat < lastNames.length :=
    UInt64.lt_iff_toNat_lt.mp below
  refine ⟨⟨(idOffset + rowIndex).toInt64,
    firstNames[rowIndex.toNat % firstNames.length] ++ " " ++
      lastNames[index.toNat], activity ≠ 0, balance.toInt64⟩,
    one + two + three, max enough (max more most), rfl, ?_⟩
  intro fuel large
  have firstOf := List.getElem?_eq_getElem inRange
  have lastOf := List.getElem?_eq_getElem named
  simp only [generateRow, uniformRange_same, firstOf, first fuel (by omega),
    lastOf, second fuel (by omega), third fuel (by omega),
    Option.bind_eq_bind, Option.bind_some, Option.pure_def]

/-- On a lively stream there is a row for every index. -/
theorem generateRows_ends {rng : ρ} (lively : Lively rng)
    (idOffset : UInt64) (indices : List UInt64) :
    ∃ rows count enough,
      rows.map GeneratedRow.customerId =
        indices.map (fun rowIndex => (idOffset + rowIndex).toInt64) ∧
      ∀ fuel, enough ≤ fuel →
        generateRows fuel idOffset indices rng =
          some (rows, stateAt rng count) := by
  induction indices generalizing rng with
  | nil => exact ⟨[], 0, 0, rfl, fun _ _ => rfl⟩
  | cons rowIndex rest ih =>
      obtain ⟨row, one, enough, own, drawn⟩ :=
        generateRow_ends lively rowIndex idOffset
      obtain ⟨rows, two, more, owned, others⟩ := ih (lively.later one)
      refine ⟨row :: rows, one + two, max enough more, ?_, ?_⟩
      · rw [List.map_cons, List.map_cons, own, owned]
      · intro fuel large
        rw [stateAt_stateAt] at others
        rw [generateRows, drawn fuel (by omega)]
        simp only [Option.bind_eq_bind, Option.bind_some,
          others fuel (by omega), Option.pure_def]

end Rows

theorem generateRows_length {ρ : Type} [Rng ρ] {fuel : Nat}
    {idOffset : UInt64} {indices : List UInt64} {rng after : ρ}
    {rows : List GeneratedRow}
    (drawn : generateRows fuel idOffset indices rng = some (rows, after)) :
    rows.length = indices.length := by
  induction indices generalizing rng rows with
  | nil =>
      cases drawn
      rfl
  | cons rowIndex rest ih =>
      rw [generateRows] at drawn
      simp only [Option.bind_eq_bind, Option.bind_eq_some_iff,
        Option.pure_def, Option.some.injEq] at drawn
      obtain ⟨row, _, others, later, same⟩ := drawn
      cases same
      rw [List.length_cons, List.length_cons, ih later]

/-! ### The loop -/

section Seeding

variable {ρ δ ε : Type} [SeedableRng ρ]

theorem seedLoop_done (fuel : Nat) (execute : δ → Statement → Except ε δ)
    {rows rowIndex : UInt64} (past : ¬rowIndex ≤ rows) (idOffset : UInt64)
    (turns : Nat) (rng : ρ) (pool : δ) :
    seedLoop fuel execute rows idOffset (turns + 1) rowIndex rng pool =
      some ([], .ok pool) := by
  rw [seedLoop, if_neg past]
  rfl

/-- One turn of the loop sends the statement of one batch. -/
theorem seedLoop_turn {fuel : Nat} {execute : δ → Statement → Except ε δ}
    {rows rowIndex : UInt64} (more : rowIndex ≤ rows) {idOffset : UInt64}
    {turns batchLen : Nat} {rng next : ρ} {pool : δ}
    {batch : List GeneratedRow} {statements : List Statement}
    (size : min batchRows (rows - rowIndex + 1).toNat = batchLen)
    (drawn : generateRows fuel idOffset (indicesFrom rowIndex batchLen) rng =
      some (batch, next))
    (rest : ∀ pool : δ, seedLoop fuel execute rows idOffset turns
      (rowIndex + UInt64.ofNat batchLen) next pool =
        some (sendAll execute pool statements)) :
    seedLoop fuel execute rows idOffset (turns + 1) rowIndex rng pool =
      some (sendAll execute pool (statementOf batch :: statements)) := by
  rw [seedLoop, if_pos more]
  simp only [size, drawn, Option.bind_eq_bind, Option.bind_some]
  cases outcome : execute pool (statementOf batch) with
  | error error =>
      rw [Sending.sendAll_error statements outcome]
      rfl
  | ok after =>
      rw [Sending.sendAll_ok statements outcome]
      simp only [rest after, Option.bind_some]
      rfl

/-- The loop sends the chunks of the rows that are still to be drawn. -/
theorem seedLoop_sends {fuel : Nat} {execute : δ → Statement → Except ε δ}
    {rows idOffset : UInt64} (below : rows.toNat < 2 ^ 64 - 1)
    {turns : Nat} {rowIndex : UInt64} {rng after : ρ} {pool : δ}
    {remaining : Nat} {drawn : List GeneratedRow}
    (left : rowIndex.toNat + remaining = rows.toNat + 1)
    (enough : remaining < turns)
    (generated : generateRows fuel idOffset (indicesFrom rowIndex remaining)
      rng = some (drawn, after)) :
    seedLoop fuel execute rows idOffset turns rowIndex rng pool =
      some (sendAll execute pool
        ((Chunks.chunks batchRows drawn).map statementOf)) := by
  induction turns generalizing rowIndex rng pool remaining drawn with
  | zero => exact absurd enough (Nat.not_lt_zero remaining)
  | succ turns ih =>
      have length := generateRows_length generated
      rw [indicesFrom_length] at length
      by_cases more : rowIndex ≤ rows
      · have reached := UInt64.le_iff_toNat_le.mp more
        have difference : (rows - rowIndex + 1).toNat = remaining := by
          rw [UInt64.toNat_add, UInt64.toNat_sub_of_le _ _ more,
            UInt64.toNat_one, Nat.mod_eq_of_lt (by omega)]
          omega
        have size : batchRows = 500 := rfl
        obtain ⟨later, parts⟩ : ∃ later,
            min batchRows remaining + later = remaining :=
          ⟨remaining - min batchRows remaining, by omega⟩
        have next : (rowIndex +
            UInt64.ofNat (min batchRows remaining)).toNat =
            rowIndex.toNat + min batchRows remaining := by
          rw [UInt64.toNat_add, UInt64.toNat_ofNat_of_lt' (by
            rw [UInt64.size]
            omega), Nat.mod_eq_of_lt (by omega)]
        rw [← parts, indicesFrom_append, generateRows_append] at generated
        obtain ⟨⟨batch, middle⟩, first, others⟩ :=
          Option.bind_eq_some_iff.mp generated
        obtain ⟨⟨tail, last⟩, second, same⟩ :=
          Option.map_eq_some_iff.mp others
        have batchLength := generateRows_length first
        rw [indicesFrom_length] at batchLength
        have tailLength := generateRows_length second
        rw [indicesFrom_length] at tailLength
        have whole : batch ++ tail = drawn := congrArg Prod.fst same
        have stop : last = after := congrArg Prod.snd same
        rw [stop] at second
        have nonempty : drawn ≠ [] := by
          apply List.ne_nil_of_length_pos
          omega
        have chunk : drawn.take batchRows = batch ∧
            drawn.drop batchRows = tail := by
          rw [← whole]
          by_cases full : batchRows ≤ remaining
          · have exact : batch.length = batchRows := by omega
            exact ⟨List.take_left' exact, List.drop_left' exact⟩
          · have last : tail = [] := by
              apply List.eq_nil_of_length_eq_zero
              omega
            rw [last, List.append_nil]
            constructor
            · exact List.take_of_length_le (by omega)
            · exact List.drop_eq_nil_of_le (by omega)
        rw [Chunks.chunks_step (by omega) nonempty, chunk.1, chunk.2,
          List.map_cons]
        apply seedLoop_turn more (by rw [difference]) first
        intro pool
        have onward : (rowIndex +
            UInt64.ofNat (min batchRows remaining)).toNat + later =
            rows.toNat + 1 := by
          omega
        exact ih onward (by omega) second
      · have reached : rows.toNat < rowIndex.toNat :=
          Nat.lt_of_not_le (mt UInt64.le_iff_toNat_le.mpr more)
        have nothing : drawn = [] := by
          apply List.eq_nil_of_length_eq_zero
          omega
        rw [seedLoop_done fuel execute more, nothing, Chunks.chunks_nil]
        rfl

/-- The statement of a batch: some rows, but not too many, whose values are
bound to the placeholders in their order. -/
structure Batch (batch : List GeneratedRow) : Prop where
  least : 1 ≤ batch.length
  most : batch.length ≤ batchRows
  bound : (statementOf batch).values = batch.flatMap boundValues
  length : (statementOf batch).values.length = columnsPerRow * batch.length
  numbers : Placeholders.numbers (statementOf batch).text.toList =
    List.range' 1 (columnsPerRow * batch.length)

/-- No offset overflows. -/
theorem offsets_fit {idOffset rows : UInt64}
    (fits : idOffset.toNat + rows.toNat < 2 ^ 64) :
    ∀ rowIndex ∈ indicesFrom 1 rows.toNat,
      (idOffset + rowIndex).toNat = idOffset.toNat + rowIndex.toNat := by
  intro rowIndex member
  unfold indicesFrom at member
  obtain ⟨offset, below, rfl⟩ := List.mem_map.mp member
  rw [List.mem_range] at below
  have index : (1 + UInt64.ofNat offset).toNat = 1 + offset := by
    rw [UInt64.toNat_add, UInt64.toNat_one, UInt64.toNat_ofNat_of_lt' (by
      rw [UInt64.size]
      omega), Nat.mod_eq_of_lt (by omega)]
  rw [UInt64.toNat_add, index, Nat.mod_eq_of_lt (by omega)]

/-- The offset of every index is another number. -/
theorem customerIds_nodup (idOffset rows : UInt64) :
    ((indicesFrom 1 rows.toNat).map fun rowIndex =>
      (idOffset + rowIndex).toInt64).Nodup := by
  unfold indicesFrom
  rw [List.map_map]
  apply List.Nodup.map_on ?_ List.nodup_range
  intro first firstIn second secondIn same
  rw [List.mem_range] at firstIn secondIn
  have words := congrArg Int64.toUInt64 same
  rw [Function.comp_apply, Function.comp_apply, UInt64.toUInt64_toInt64,
    UInt64.toUInt64_toInt64] at words
  rw [UInt64.add_right_inj, UInt64.add_right_inj] at words
  have numbers := congrArg UInt64.toNat words
  have limit := rows.toNat_lt
  rw [UInt64.toNat_ofNat_of_lt' (by
      rw [UInt64.size]
      omega), UInt64.toNat_ofNat_of_lt' (by
      rw [UInt64.size]
      omega)] at numbers
  exact numbers

/-- Seeding ends; the statements that it sends are the chunks of the rows that
one generator draws one after another, whatever the pool makes of them. -/
theorem seed_exact {rows seedValue idOffset : UInt64}
    (below : rows.toNat < 2 ^ 64 - 1)
    (fits : idOffset.toNat + rows.toNat < 2 ^ 64)
    (lively : Lively (SeedableRng.seedFromU64 seedValue : ρ))
    (execute : δ → Statement → Except ε δ) (pool : δ) :
    ∃ drawn after enough,
      (∀ fuel, enough ≤ fuel →
        generateRows fuel idOffset (indicesFrom 1 rows.toNat)
            (SeedableRng.seedFromU64 seedValue : ρ) = some (drawn, after) ∧
          @seed ρ δ ε _ fuel execute pool rows seedValue idOffset =
            some (sendAll execute pool
              ((Chunks.chunks batchRows drawn).map statementOf))) ∧
      drawn.length = rows.toNat ∧
      (∀ rowIndex ∈ indicesFrom 1 rows.toNat,
        (idOffset + rowIndex).toNat = idOffset.toNat + rowIndex.toNat) ∧
      (drawn.map GeneratedRow.customerId).Nodup ∧
      (Chunks.chunks batchRows drawn).flatten = drawn ∧
      ∀ batch ∈ Chunks.chunks batchRows drawn, Batch batch := by
  obtain ⟨drawn, count, enough, owned, generated⟩ :=
    generateRows_ends lively idOffset (indicesFrom 1 rows.toNat)
  have splits := Chunks.chunks_splits (by decide : 0 < batchRows) drawn
  refine ⟨drawn, stateAt (SeedableRng.seedFromU64 seedValue) count,
    max enough (rows.toNat + 2), ?_, ?_, offsets_fit fits, ?_, splits.whole,
    ?_⟩
  · intro fuel large
    have here := generated fuel (by omega)
    exact ⟨here, seedLoop_sends below (by
      rw [UInt64.toNat_one]
      omega) (by omega) here⟩
  · have length := generateRows_length (generated enough (Nat.le_refl _))
    rw [length, indicesFrom_length]
  · rw [owned]
    exact customerIds_nodup idOffset rows
  · intro batch member
    exact {
      least := List.length_pos_of_ne_nil (splits.nonempty batch member)
      most := splits.bounded batch member
      bound := rfl
      length := @Placeholders.values_length _ _ columnsPerRow boundValues
        (fun _ => rfl) batch
      numbers := insertSql_numbers batch.length }

end Seeding

theorem seed_exact_two :
    ∃ drawn enough,
      (∀ fuel, enough ≤ fuel →
        @seed Recording Unit Unit _ fuel (fun _ _ => .ok ()) () 2 42 0 =
          some (sendAll (fun _ _ => .ok ()) ()
            ((Chunks.chunks batchRows drawn).map statementOf))) ∧
      drawn.length = 2 := by
  obtain ⟨drawn, _, enough, sent, length, _⟩ :=
    @seed_exact Recording Unit Unit _ 2 42 0 (by decide) (by decide)
      (Recording.lively _) (fun _ _ => .ok ()) ()
  exact ⟨drawn, enough, fun fuel large => (sent fuel large).2, length⟩

end PostgresPostgres

end Generator
