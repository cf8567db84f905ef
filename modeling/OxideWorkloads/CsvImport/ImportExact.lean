/-
A complete import verifies just if its timestamps are whole microseconds.

The rows of the file and the rows of the table go together one by one through
every chunk and statement; what is left is the way of one timestamp through
its text, the cast and the stored microseconds.
-/

import OxideWorkloads.CsvImport.Import

namespace CsvImport

open Foundation
open Foundation.Checks
open Foundation.LineLog (Bytes)

variable {platform : Platform} {postgres : Postgres}
  {conflictClause : Option String}

/-! ### One row -/

/-- A whole number of microseconds, and no leap second. -/
def DateTime.WholeMicros (instant : DateTime) : Prop :=
  instant.nanoseconds < 1000000000 ∧ instant.nanoseconds % 1000 = 0

instance (instant : DateTime) : Decidable instant.WholeMicros :=
  inferInstanceAs (Decidable (_ ∧ _))

/-- A stored row is what PostgreSQL makes of a row of the file. -/
structure Keeps (platform : Platform) (postgres : Postgres)
    (row : ImportedRow) (stored : StoredRow) : Prop where
  customerId : stored.customerId = row.customerId
  name : stored.name = row.name
  email : stored.email = row.email
  amount : stored.amount = row.amount
  createdAt : postgres.toTimestamptz (platform.toRfc3339 row.createdAt) =
    some stored.createdAt

theorem ofMicros?_eq_some {micros : Int} {instant : DateTime} :
    DateTime.ofMicros? micros = some instant ↔
      instant.WholeMicros ∧
        1000 * micros =
          instant.seconds * 1000000000 + instant.nanoseconds := by
  unfold DateTime.ofMicros? DateTime.WholeMicros
  constructor
  · intro found
    split at found
    · rw [Option.some.injEq] at found
      rw [← found]
      dsimp only
      omega
    · cases found
  · intro whole
    have early := instant.early
    have late := instant.late
    have seconds : micros / 1000000 = instant.seconds := by omega
    rw [dif_pos (by rw [seconds]; exact ⟨early, late⟩), Option.some.injEq]
    cases instant
    rw [DateTime.mk.injEq]
    dsimp only at whole seconds
    omega

/-- A stored row is read back as the row of the file. -/
theorem Keeps.decode_iff (rounds : postgres.Rounds platform)
    {row : ImportedRow} {stored : StoredRow}
    (keeps : Keeps platform postgres row stored) :
    stored.decode = .ok row ↔ row.createdAt.WholeMicros := by
  have near := rounds row.createdAt stored.createdAt keeps.createdAt
  have fields : stored.decode = .ok row ↔
      DateTime.ofMicros? stored.createdAt = some row.createdAt := by
    unfold StoredRow.decode
    simp only [bind_eq_ok, require_eq_ok, pure_eq_ok]
    constructor
    · intro decodes
      obtain ⟨instant, found, same⟩ := decodes
      rw [found, ← same]
    · intro found
      refine ⟨row.createdAt, found, ?_⟩
      rw [keeps.customerId, keeps.name, keeps.email, keeps.amount]
  rw [fields, ofMicros?_eq_some]
  constructor
  · intro whole
    exact whole.1
  · intro whole
    refine ⟨whole, ?_⟩
    unfold DateTime.WholeMicros at whole
    omega

theorem decoded_iff (rounds : postgres.Rounds platform)
    {rows : List ImportedRow} {stored : List StoredRow}
    (keeps : List.Forall₂ (Keeps platform postgres) rows stored) :
    stored.mapM StoredRow.decode = .ok rows ↔
      ∀ row ∈ rows, row.createdAt.WholeMicros := by
  induction keeps with
  | nil =>
      constructor
      · intro _ row member
        cases member
      · intro _
        rfl
  | cons first _ ih =>
      rw [List.forall_mem_cons, ← ih, ← first.decode_iff rounds, mapM_eq_ok,
        mapM_eq_ok, List.forall₂_cons]

/-! ### The processor -/

/-- What the processor makes of a row. -/
def customerRow (platform : Platform) (row : ImportedRow) : CustomerRow :=
  { customerId := row.customerId
    name := row.name
    email := row.email
    amount := row.amount
    createdAtRfc3339 := platform.toRfc3339 row.createdAt }

theorem five_fields {record : List String} (five : record.length = 5) :
    ∃ customerId name email amount createdAt,
      record = [customerId, name, email, amount, createdAt] := by
  obtain ⟨customerId, fromName, split⟩ :=
    List.exists_cons_of_length_eq_add_one five
  rw [split, List.length_cons] at five
  obtain ⟨name, email, amount, createdAt, fields⟩ :=
    List.length_eq_four.mp (Nat.succ.inj five)
  exact ⟨customerId, name, email, amount, createdAt, by rw [split, fields]⟩

/-- Processor and verifier accept the same records. -/
theorem process_eq_ok {record : List String} {item : CustomerRow} :
    process platform record = .ok item ↔
      ∃ row, recordRow platform (.ok record) = some row ∧
        customerRow platform row = item := by
  unfold process expectedFieldCount
  simp only [bind_eq_ok, ensure_eq_ok, exists_const, require_eq_ok, pure_eq_ok]
  by_cases five : record.length = 5
  · obtain ⟨customerId, name, email, amount, createdAt, fields⟩ :=
      five_fields five
    rw [fields]
    unfold recordRow
    simp only [List.length_cons, List.length_nil, Option.bind_eq_bind,
      Option.bind_eq_some_iff, Option.pure_def, Option.some.injEq]
    constructor
    · intro accepts
      obtain ⟨_, id, ⟨_, idText, idRead⟩, _, nameSame, _, emailSame,
        amountValue, ⟨_, amountText, amountRead⟩, instant,
        ⟨_, instantText, instantRead⟩, same⟩ := accepts
      cases idText
      cases nameSame
      cases emailSame
      cases amountText
      cases instantText
      exact ⟨_, ⟨id, idRead, amountValue, amountRead, instant, instantRead,
        rfl⟩, same⟩
    · intro accepts
      obtain ⟨row, ⟨id, idRead, amountValue, amountRead, instant,
        instantRead, rowSame⟩, same⟩ := accepts
      rw [← rowSame] at same
      exact ⟨trivial, id, ⟨_, rfl, idRead⟩, name, rfl, email, rfl,
        amountValue, ⟨_, rfl, amountRead⟩, instant, ⟨_, rfl, instantRead⟩,
        same⟩
  · constructor
    · intro accepts
      exact absurd accepts.1 five
    · intro accepts
      obtain ⟨row, found, _⟩ := accepts
      unfold recordRow at found
      split at found
      · rename_i same
        rw [Except.ok.inj same] at five
        exact absurd rfl five
      · cases found

/-- The rows of some records. -/
def recordRows (platform : Platform) (records : List (List String)) :
    Option (List ImportedRow) :=
  records.mapM (fun record => recordRow platform (.ok record))

theorem processes_eq_ok {records : List (List String)}
    {items : List CustomerRow} :
    records.mapM (process platform) = .ok items ↔
      ∃ rows, recordRows platform records = some rows ∧
        rows.map (customerRow platform) = items := by
  unfold recordRows
  induction records generalizing items with
  | nil =>
      simp only [List.mapM_nil, pure_eq_ok, Option.pure_def,
        Option.some.injEq, exists_eq_left', List.map_nil]
  | cons record rest ih =>
      simp only [List.mapM_cons, bind_eq_ok, process_eq_ok, ih, pure_eq_ok,
        Option.bind_eq_bind, Option.bind_eq_some_iff, Option.pure_def,
        Option.some.injEq]
      constructor
      · intro accepts
        obtain ⟨_, ⟨row, one, rowSame⟩, _, ⟨rows, tail, restSame⟩, same⟩ :=
          accepts
        refine ⟨row :: rows, ⟨row, one, rows, tail, rfl⟩, ?_⟩
        rw [List.map_cons, rowSame, restSame, same]
      · intro accepts
        obtain ⟨_, ⟨row, one, rows, tail, same⟩, mapped⟩ := accepts
        rw [← same, List.map_cons] at mapped
        exact ⟨_, ⟨row, one, rfl⟩, _, ⟨rows, tail, rfl⟩, mapped⟩

/-! ### Statements -/

/-- The rows of a table are what PostgreSQL makes of these rows. -/
def Holds (platform : Platform) (postgres : Postgres)
    (table : ImportedTable) (rows : List ImportedRow) : Prop :=
  List.Forall₂ (Keeps platform postgres) rows table.rows

theorem insertOrdered_last {row : StoredRow} {rows : List StoredRow}
    (above : ∀ other ∈ rows, other.customerId.val < row.customerId.val) :
    insertOrdered row rows = some (rows ++ [row]) := by
  induction rows with
  | nil => rfl
  | cons first rest ih =>
      have below := above first List.mem_cons_self
      rw [insertOrdered, if_neg (by omega), if_neg (by
        intro same
        rw [same] at below
        exact lt_irrefl _ below), ih (by
          intro other member
          exact above other (List.mem_cons_of_mem _ member))]
      rfl

/-- A row above all of the table is appended. -/
theorem insert_holds {table after : ImportedTable} {done : List ImportedRow}
    {row : ImportedRow} {stored : { row : StoredRow // row.ZeroFree }}
    (holds : Holds platform postgres table done)
    (above : ∀ other ∈ done, other.customerId.val < row.customerId.val)
    (keeps : Keeps platform postgres row stored.val)
    (inserted : ImportedTable.insert conflictClause table stored =
      .ok after) : Holds platform postgres after (done ++ [row]) := by
  have last : insertOrdered stored.val table.rows =
      some (table.rows ++ [stored.val]) := by
    apply insertOrdered_last
    intro other member
    obtain ⟨before, listed, same⟩ := exists_of_forall₂ holds member
    rw [same.customerId, keeps.customerId]
    exact above before listed
  have rows : after.rows = table.rows ++ [stored.val] := by
    unfold ImportedTable.insert at inserted
    split at inserted
    · rename_i rows found
      rw [last, Option.some.injEq] at found
      cases inserted
      exact found.symm
    · rename_i found
      rw [last] at found
      cases found
  unfold Holds
  rw [rows]
  exact List.rel_append holds (List.Forall₂.cons keeps List.Forall₂.nil)

theorem ascending_cons_middle {done rest : List ImportedRow}
    {row : ImportedRow} (ascends : Ascending (done ++ row :: rest)) :
    (∀ other ∈ done, other.customerId.val < row.customerId.val) ∧
      Ascending (done ++ [row] ++ rest) := by
  constructor
  · intro other member
    exact (List.pairwise_append.mp ascends).2.2 other member row
      List.mem_cons_self
  · rw [List.append_assoc, List.singleton_append]
    exact ascends

/-- The values of a statement give one stored row for each row. -/
theorem storedRows_keeps {rows : List ImportedRow}
    {stored : List { row : StoredRow // row.ZeroFree }}
    (reads : storedRows postgres
      ((rows.map (customerRow platform)).flatMap boundValues) = .ok stored) :
    List.Forall₂ (Keeps platform postgres) rows
      (stored.map Subtype.val) := by
  induction rows generalizing stored with
  | nil =>
      cases reads
      exact List.Forall₂.nil
  | cons row rest ih =>
      have values : (((row :: rest).map (customerRow platform)).flatMap
          boundValues) =
        .i64 row.customerId :: .text row.name :: .text row.email ::
          .i64 row.amount :: .text (platform.toRfc3339 row.createdAt) ::
            ((rest.map (customerRow platform)).flatMap boundValues) :=
        rfl
      rw [values, storedRows] at reads
      simp only [bind_eq_ok, pure_eq_ok] at reads
      obtain ⟨first, one, others, tail, same⟩ := reads
      rw [← same, List.map_cons]
      apply List.Forall₂.cons ?_ (ih tail)
      unfold storedRow at one
      split at one
      · simp only [bind_eq_ok, require_eq_ok, pure_eq_ok] at one
        obtain ⟨micros, cast, same⟩ := one
        rw [← same]
        constructor
        · rfl
        · rfl
        · rfl
        · rfl
        · exact cast
      · cases one

theorem inserts_hold {stored : List { row : StoredRow // row.ZeroFree }}
    {rows done : List ImportedRow} {table after : ImportedTable}
    (holds : Holds platform postgres table done)
    (ascends : Ascending (done ++ rows))
    (keeps : List.Forall₂ (Keeps platform postgres) rows
      (stored.map Subtype.val))
    (inserted : stored.foldlM (ImportedTable.insert conflictClause) table =
      .ok after) : Holds platform postgres after (done ++ rows) := by
  induction stored generalizing rows done table with
  | nil =>
      cases keeps
      rw [List.foldlM_nil, pure_eq_ok] at inserted
      rw [← inserted, List.append_nil]
      exact holds
  | cons first rest ih =>
      cases keeps with
      | @cons row _ others _ one tail =>
          rw [List.foldlM_cons, bind_eq_ok] at inserted
          obtain ⟨middle, here, later⟩ := inserted
          obtain ⟨above, behind⟩ := ascending_cons_middle ascends
          have next := ih (insert_holds holds above one here) behind tail later
          rw [List.append_assoc, List.singleton_append] at next
          exact next

theorem execute_holds {rows done : List ImportedRow}
    {table after : ImportedTable}
    (holds : Holds platform postgres table done)
    (ascends : Ascending (done ++ rows))
    (executed : execute postgres table (statementOf conflictClause
      (rows.map (customerRow platform))) = .ok after) :
    Holds platform postgres after (done ++ rows) := by
  unfold execute statementOf at executed
  simp only [bind_eq_ok, ensure_eq_ok, exists_const] at executed
  obtain ⟨stored, reads, _, inserted⟩ := executed
  exact inserts_hold holds ascends (storedRows_keeps reads) inserted

theorem ascending_append {done first rest : List ImportedRow}
    (ascends : Ascending (done ++ (first ++ rest))) :
    Ascending (done ++ first) ∧ Ascending (done ++ first ++ rest) := by
  rw [← List.append_assoc] at ascends
  exact ⟨(List.pairwise_append.mp ascends).1, ascends⟩

/-- Statement after statement. -/
theorem executes_hold {parts : List (List CustomerRow)}
    {rows done : List ImportedRow} {table after : ImportedTable}
    (holds : Holds platform postgres table done)
    (ascends : Ascending (done ++ rows))
    (split : parts.flatten = rows.map (customerRow platform))
    (executed : parts.foldlM (fun table chunk =>
      execute postgres table (statementOf conflictClause chunk)) table =
        .ok after) : Holds platform postgres after (done ++ rows) := by
  induction parts generalizing rows done table with
  | nil =>
      rw [List.flatten_nil, eq_comm, List.map_eq_nil_iff] at split
      rw [List.foldlM_nil, pure_eq_ok] at executed
      rw [← executed, split, List.append_nil]
      exact holds
  | cons part rest ih =>
      rw [List.flatten_cons, eq_comm, List.map_eq_append_iff] at split
      obtain ⟨here, later, whole, first, others⟩ := split
      rw [List.foldlM_cons, bind_eq_ok] at executed
      obtain ⟨middle, one, tail⟩ := executed
      rw [whole] at ascends ⊢
      obtain ⟨front, behind⟩ := ascending_append ascends
      rw [← first] at one
      rw [← List.append_assoc]
      exact ih (execute_holds holds front one) behind others.symm tail

theorem mapError_eq_ok {ε δ α : Type} {rename : ε → δ} {result : Except ε α}
    {value : α} : result.mapError rename = .ok value ↔ result = .ok value := by
  cases result with
  | error failure =>
      constructor
      · intro impossible
        cases impossible
      · intro impossible
        cases impossible
  | ok here =>
      change Except.ok here = Except.ok value ↔ Except.ok here = Except.ok value
      rw [Except.ok.injEq, Except.ok.injEq]

/-! ### Chunks -/

theorem importChunk_holds {records : List (List String)}
    {table after : ImportedTable}
    (imported : importChunk platform postgres conflictClause table records =
      .ok after) :
    ∃ rows, recordRows platform records = some rows ∧
      ∀ done, Holds platform postgres table done → Ascending (done ++ rows) →
        Holds platform postgres after (done ++ rows) := by
  unfold importChunk at imported
  simp only [bind_eq_ok, processes_eq_ok, require_eq_ok] at imported
  obtain ⟨items, ⟨rows, found, mapped⟩, result, writes, final⟩ := imported
  refine ⟨rows, found, ?_⟩
  intro done holds ascends
  unfold write at writes
  by_cases empty : items = []
  · rw [empty, List.map_eq_nil_iff] at mapped
    rw [if_neg (by decide), if_pos empty] at writes
    cases writes
    cases final
    rw [mapped, List.append_nil]
    exact holds
  · rw [if_neg (by decide), if_neg empty] at writes
    simp only [bind_eq_ok, require_eq_ok, pure_eq_ok,
      mapError_eq_ok, Option.some.injEq] at writes
    obtain ⟨_, same, written, executed, ends⟩ := writes
    rw [← same] at executed
    rw [← ends, Option.some.injEq] at final
    rw [← final]
    apply executes_hold holds ascends ?_ executed
    rw [(Chunks.chunks_splits (by decide) items).whole, mapped]

theorem recordRows_append {first rest : List (List String)}
    {here later : List ImportedRow}
    (one : recordRows platform first = some here)
    (tail : recordRows platform rest = some later) :
    recordRows platform (first ++ rest) = some (here ++ later) := by
  unfold recordRows at one tail ⊢
  rw [List.mapM_append, one, tail]
  rfl

theorem importChunks_holds {chunks : List (List (List String))}
    {table after : ImportedTable}
    (imported : chunks.foldlM (importChunk platform postgres conflictClause)
      table = .ok after) :
    ∃ rows, recordRows platform chunks.flatten = some rows ∧
      ∀ done, Holds platform postgres table done → Ascending (done ++ rows) →
        Holds platform postgres after (done ++ rows) := by
  induction chunks generalizing table with
  | nil =>
      rw [List.foldlM_nil, pure_eq_ok] at imported
      refine ⟨[], rfl, ?_⟩
      intro done holds _
      rw [← imported, List.append_nil]
      exact holds
  | cons chunk rest ih =>
      rw [List.foldlM_cons, bind_eq_ok] at imported
      obtain ⟨middle, first, others⟩ := imported
      obtain ⟨here, found, keeps⟩ := importChunk_holds first
      obtain ⟨later, tail, keepsRest⟩ := ih others
      refine ⟨here ++ later, recordRows_append found tail, ?_⟩
      intro done holds ascends
      obtain ⟨front, behind⟩ := ascending_append ascends
      rw [← List.append_assoc]
      exact keepsRest _ (keeps done holds front) behind

/-! ### Verification -/

/-- A complete import verifies, whatever its chunks, just if every timestamp of
the file is a whole number of microseconds. -/
theorem completeImport_verifies_iff (renders : platform.Renders)
    (rounds : postgres.Rounds platform) {content : Bytes}
    {chunks : List (List (List String))} {rows : List ImportedRow}
    {table : ImportedTable}
    (reads : platform.records content = chunks.flatten.map Except.ok)
    (found : fileRows platform content = some rows)
    (ascends : Ascending rows)
    (imported : importChunks platform postgres conflictClause chunks =
      .ok table)
    (distinguished : ∀ stored, table.decoded = .ok stored →
      platform.sha256 (canonicalStream platform rows) =
        platform.sha256 (canonicalStream platform stored) →
      canonicalStream platform rows = canonicalStream platform stored) :
    verify platform (.ok content) table = .ok () ↔
      ∀ row ∈ rows, row.createdAt.WholeMicros := by
  obtain ⟨others, same, keeps⟩ := importChunks_holds imported
  have sameRows : others = rows := by
    unfold fileRows at found
    rw [reads, List.mapM_map] at found
    exact Option.some.inj (same.symm.trans found)
  rw [sameRows] at keeps
  have holds : Holds platform postgres table rows :=
    keeps [] List.Forall₂.nil ascends
  have decodes : table.decoded = .ok rows ↔
      ∀ row ∈ rows, row.createdAt.WholeMicros := decoded_iff rounds holds
  rw [verify_of_rows renders found distinguished, ← decodes]
  constructor
  · intro agree
    exact agree.2
  · intro whole
    exact ⟨ascends, whole⟩

/-- A database that knows the renderings of two instants. -/
def samplePostgres : Postgres :=
  { toTimestamptz := fun text =>
      if text = "2024-01-02T03:04:05+00:00" ∨
          text = "2024-01-02T03:04:05.000000500+00:00" then
        some 1704164645000000
      else none }

theorem samplePostgres_rounds (fields : List (List String)) :
    samplePostgres.Rounds (samplePlatform fields) := by
  intro instant micros cast
  change (if sampleRfc3339 instant =
        sampleRfc3339 (sampleInstant 0 (by decide)) ∨
      sampleRfc3339 instant = sampleRfc3339 halfInstant
    then some 1704164645000000 else none) = some micros at cast
  split at cast
  · rename_i known
    cases cast
    rcases known with whole | half
    · rw [sampleRfc3339_injective whole]
      decide
    · rw [sampleRfc3339_injective half]
      decide
  · cases cast

/-- Two chunks of one row each, with timestamps of whole seconds. -/
theorem completeImport_verifies_whole :
    ∃ table, importChunks (samplePlatform severalFields) samplePostgres none
        (severalFields.map fun record => [record]) = .ok table ∧
      verify (samplePlatform severalFields) (.ok (fileOf severalFields))
        table = .ok () := by
  refine ⟨severalTable, rfl, ?_⟩
  apply (completeImport_verifies_iff (samplePlatform_renders severalFields)
    (samplePostgres_rounds severalFields)
    (samplePlatform_records severalFields) several_found several_ascends
    (rfl : importChunks _ _ none (severalFields.map fun record => [record]) =
      .ok severalTable) ?_).mpr
  · intro row member
    rcases List.mem_cons.mp member with first | later
    · rw [first]
      decide
    · rw [List.mem_singleton.mp later]
      decide
  · intro stored decodes _
    cases decodes
    rfl

def halfFields : List (List String) :=
  [["7", "Zoÿ", "zoy@example.com", "-5", "2024-01-02T03:04:05.0000005Z"]]

def halfImported : ImportedRow :=
  { sampleImported with createdAt := halfInstant }

/-- Half a microsecond is rounded away by the table, and the verification of
the complete import fails. -/
theorem halfMicrosecond_fails :
    (∀ record ∈ halfFields,
        ∃ item, process (samplePlatform halfFields) record = .ok item) ∧
      fileRows (samplePlatform halfFields) (fileOf halfFields) =
        some [halfImported] ∧ Ascending [halfImported] ∧
      importChunks (samplePlatform halfFields) samplePostgres none
        [halfFields] = .ok sampleTable ∧
      verify (samplePlatform halfFields) (.ok (fileOf halfFields))
        sampleTable ≠ .ok () := by
  have found : fileRows (samplePlatform halfFields) (fileOf halfFields) =
      some [halfImported] := by
    unfold fileRows
    rw [samplePlatform_records]
    rfl
  refine ⟨?_, found, List.pairwise_singleton _ _, rfl, ?_⟩
  · intro record member
    rw [List.mem_singleton.mp member]
    exact ⟨_, rfl⟩
  · intro accepts
    obtain ⟨_, rows, stored, opened, otherFound, _, decodes, _, hashes⟩ :=
      verify_eq_ok.mp accepts
    cases opened
    rw [found] at otherFound
    cases otherFound
    cases decodes
    revert hashes
    decide +kernel

end CsvImport
