/-
The item reader of the JBeret engine: one position, by which it resumes, fetches
its pages and checks the order, in both reader modes.

The source table is locked for the time of a run, so a reader reads one
content.  Opening and closing connections is left out.
-/

import OxideWorkloads.Projection.RawSqlxReaders

namespace Projection

open Foundation
open Foundation.Checks

namespace JBeret

def maxReadBatchSize : Int := 1000000

inductive ReaderMode where
  | cursor
  | paging
  deriving DecidableEq

def ReaderMode.parse (value : String) : Except String ReaderMode :=
  match value with
  | "cursor" => .ok .cursor
  | "paging" => .ok .paging
  | _ => .error "--reader must be cursor or paging"

/-- The properties of the job that the reader is given, the numbers parsed. -/
structure ReaderProperties where
  readerMode : String
  fetchSize : Int
  pageSize : Int

/-- A checkpoint: none, a long, or any other object. -/
inductive Checkpoint where
  | null
  | long (value : Int64)
  | other (shown : String)

structure PostgresReader where
  mode : ReaderMode
  effectiveFetchSize : Int
  effectivePageSize : Int
  currentRows : Option (List SourceRow)
  lastCustomerId : Int64

def positiveInt (parsed : Int) (field : String) (maximum : Int) :
    Except String Int := do
  ensure (¬(parsed < 1 ∨ parsed > maximum))
    s!"{field} must be between 1 and {maximum}"
  return parsed

/-- The position that a checkpoint stands for. -/
def positionOf : Checkpoint → Except String Int64
  | .null => .ok 0
  | .long value =>
      if 0 ≤ value then .ok value
      else .error s!"unexpected JBeret reader checkpoint: {value}"
  | .other shown => .error s!"unexpected JBeret reader checkpoint: {shown}"

/-- Open a reader; in cursor mode its only query is executed here. -/
def openReader (table : SourceTable) (properties : ReaderProperties)
    (checkpoint : Checkpoint) : Except String PostgresReader := do
  let mode ← ReaderMode.parse properties.readerMode
  let effectiveFetchSize ←
    positiveInt properties.fetchSize "fetchSize" maxReadBatchSize
  let effectivePageSize ←
    positiveInt properties.pageSize "pageSize" maxReadBatchSize
  let lastCustomerId ← positionOf checkpoint
  let currentRows := match mode with
    | .cursor => some (table.after (some lastCustomerId))
    | .paging => none
  return {
    mode, effectiveFetchSize, effectivePageSize, currentRows, lastCustomerId }

def PostgresReader.consumeCurrentRow (reader : PostgresReader)
    (source : SourceRow) (rest : List SourceRow) :
    Except String (Option SourceRow × PostgresReader) :=
  if source.customerId ≤ reader.lastCustomerId then
    .error s!"reader ordering regressed: previous={reader.lastCustomerId} current={source.customerId}"
  else
    .ok (some source,
      { reader with
        currentRows := some rest
        lastCustomerId := source.customerId })

/-- The next page, or the end. -/
def PostgresReader.nextPage (table : SourceTable) (reader : PostgresReader) :
    Except String (Option SourceRow × PostgresReader) :=
  match RawSqlx.fetchPage table (some reader.lastCustomerId)
      reader.effectivePageSize.toNat with
  | [] => .ok (none, { reader with currentRows := none })
  | source :: rest => reader.consumeCurrentRow source rest

def PostgresReader.readItem (table : SourceTable) (reader : PostgresReader) :
    Except String (Option SourceRow × PostgresReader) :=
  match reader.mode, reader.currentRows with
  | .cursor, none => .error "java.lang.NullPointerException"
  | .cursor, some [] => .ok (none, reader)
  | .cursor, some (source :: rest) => reader.consumeCurrentRow source rest
  | .paging, some (source :: rest) => reader.consumeCurrentRow source rest
  | .paging, some [] => reader.nextPage table
  | .paging, none => reader.nextPage table

def PostgresReader.checkpointInfo (reader : PostgresReader) : Checkpoint :=
  .long reader.lastCustomerId

/-- The answers to so many calls of `readItem`. -/
def readItems (table : SourceTable) : Nat → PostgresReader →
    Except String (List (Option SourceRow) × PostgresReader)
  | 0, reader => .ok ([], reader)
  | count + 1, reader => do
      let (item, reader) ← reader.readItem table
      let (items, reader) ← readItems table count reader
      return (item :: items, reader)

/-! ### What is still to come -/

/-- The answers of so many calls to a reader that has these rows to give. -/
def answers (rows : List SourceRow) : Nat → List (Option SourceRow)
  | 0 => []
  | count + 1 => rows.head? :: answers rows.tail count

theorem after_cons {table : SourceTable} {position : Option Int64}
    {source : SourceRow} {rest : List SourceRow}
    (remaining : table.after position = source :: rest) :
    table.after (some source.customerId) = rest := by
  have member : source ∈ table.after position := by
    rw [remaining]
    exact List.mem_cons_self
  have ascending := RawSqlx.after_ascending table position
  have first : ((table.after position).take 1).getLast? = some source := by
    rw [remaining]
    rfl
  rw [RawSqlx.after_after member, RawSqlx.above_last ascending first,
    remaining]
  rfl

theorem after_head_lt {table : SourceTable} {position : Int64}
    {source : SourceRow} {rest : List SourceRow}
    (remaining : table.after (some position) = source :: rest) :
    position < source.customerId := by
  have member : source ∈ table.after (some position) := by
    rw [remaining]
    exact List.mem_cons_self
  exact of_decide_eq_true (List.mem_filter.mp member).2

/-- The rows that the reader holds are the next ones behind its position. -/
structure Sound (table : SourceTable) (reader : PostgresReader) : Prop where
  pageSize : 1 ≤ reader.effectivePageSize
  position : 0 ≤ reader.lastCustomerId
  cursor : reader.mode = .cursor →
    reader.currentRows = some (table.after (some reader.lastCustomerId))
  paging : reader.mode = .paging → ∀ rows, reader.currentRows = some rows →
    ∃ behind, table.after (some reader.lastCustomerId) = rows ++ behind

theorem consumeCurrentRow_sound {table : SourceTable}
    {reader : PostgresReader} {source : SourceRow}
    {held rest behind : List SourceRow} (sound : Sound table reader)
    (remaining : table.after (some reader.lastCustomerId) = source :: rest)
    (splits : rest = held ++ behind)
    (whole : reader.mode = .cursor → held = rest) :
    ∃ next, reader.consumeCurrentRow source held = .ok (some source, next) ∧
      Sound table next ∧ next.lastCustomerId = source.customerId := by
  have above := after_head_lt remaining
  refine ⟨_, if_neg (Int64.not_le.mpr above), ?_, rfl⟩
  constructor
  · exact sound.pageSize
  · exact Int64.le_of_lt (Int64.lt_of_le_of_lt sound.position above)
  · intro mode
    rw [whole mode]
    exact congrArg some (after_cons remaining).symm
  · intro _ rows present
    cases present
    exact ⟨behind, (after_cons remaining).trans splits⟩

theorem nextPage_cons {table : SourceTable} {reader : PostgresReader}
    {source : SourceRow} {rest : List SourceRow} (sound : Sound table reader)
    (paging : reader.mode = .paging)
    (remaining : table.after (some reader.lastCustomerId) = source :: rest) :
    ∃ next, reader.nextPage table = .ok (some source, next) ∧
      Sound table next ∧ next.lastCustomerId = source.customerId := by
  obtain ⟨size, sizeEq⟩ : ∃ size, reader.effectivePageSize.toNat = size + 1 := by
    have positive := sound.pageSize
    exact ⟨reader.effectivePageSize.toNat - 1, by omega⟩
  have page : RawSqlx.fetchPage table (some reader.lastCustomerId)
      reader.effectivePageSize.toNat = source :: rest.take size := by
    rw [RawSqlx.fetchPage, remaining, sizeEq, List.take_succ_cons]
  unfold PostgresReader.nextPage
  rw [page]
  apply consumeCurrentRow_sound sound remaining
    (List.take_append_drop size rest).symm
  intro cursor
  rw [paging] at cursor
  cases cursor

theorem nextPage_nil {table : SourceTable} {reader : PostgresReader}
    (sound : Sound table reader) (paging : reader.mode = .paging)
    (nothing : table.after (some reader.lastCustomerId) = []) :
    reader.nextPage table = .ok (none, { reader with currentRows := none }) ∧
      Sound table { reader with currentRows := none } := by
  have page : RawSqlx.fetchPage table (some reader.lastCustomerId)
      reader.effectivePageSize.toNat = [] := by
    rw [RawSqlx.fetchPage, nothing, List.take_nil]
  constructor
  · unfold PostgresReader.nextPage
    rw [page]
  constructor
  · exact sound.pageSize
  · exact sound.position
  · intro cursor
    exact absurd (paging.symm.trans cursor) (by decide)
  · intro _ rows impossible
    cases impossible

/-- The call takes the next row, or there is none. -/
def Takes (table : SourceTable) (reader : PostgresReader)
    (result : Except String (Option SourceRow × PostgresReader)) : Prop :=
  ∃ next, result =
      .ok ((table.after (some reader.lastCustomerId)).head?, next) ∧
    Sound table next ∧
    table.after (some next.lastCustomerId) =
      (table.after (some reader.lastCustomerId)).tail

theorem takes_row {table : SourceTable} {reader next : PostgresReader}
    {source : SourceRow} {rest : List SourceRow}
    (remaining : table.after (some reader.lastCustomerId) = source :: rest)
    (sound : Sound table next)
    (position : next.lastCustomerId = source.customerId) :
    Takes table reader (.ok (some source, next)) := by
  refine ⟨next, ?_, sound, ?_⟩
  · rw [remaining]
    rfl
  · rw [position, after_cons remaining, remaining]
    rfl

theorem takes_nothing {table : SourceTable} {reader next : PostgresReader}
    (nothing : table.after (some reader.lastCustomerId) = [])
    (sound : Sound table next)
    (position : next.lastCustomerId = reader.lastCustomerId) :
    Takes table reader (.ok (none, next)) := by
  refine ⟨next, ?_, sound, ?_⟩
  · rw [nothing]
    rfl
  · rw [position, nothing]
    rfl

theorem nextPage_takes {table : SourceTable} {reader : PostgresReader}
    (sound : Sound table reader) (paging : reader.mode = .paging) :
    Takes table reader (reader.nextPage table) := by
  cases remaining : table.after (some reader.lastCustomerId) with
  | nil =>
      obtain ⟨page, kept⟩ := nextPage_nil sound paging remaining
      rw [page]
      exact takes_nothing remaining kept rfl
  | cons source rest =>
      obtain ⟨next, page, kept, position⟩ :=
        nextPage_cons sound paging remaining
      rw [page]
      exact takes_row remaining kept position

theorem readItem_takes {table : SourceTable} {reader : PostgresReader}
    (sound : Sound table reader) :
    Takes table reader (reader.readItem table) := by
  unfold PostgresReader.readItem
  cases mode : reader.mode with
  | cursor =>
      rw [sound.cursor mode]
      cases remaining : table.after (some reader.lastCustomerId) with
      | nil => exact takes_nothing remaining sound rfl
      | cons source rest =>
          obtain ⟨next, consumed, kept, position⟩ := consumeCurrentRow_sound
            sound remaining (List.append_nil rest).symm (fun _ => rfl)
          simp only [consumed]
          exact takes_row remaining kept position
  | paging =>
      cases current : reader.currentRows with
      | none => exact nextPage_takes sound mode
      | some rows =>
          cases rows with
          | nil => exact nextPage_takes sound mode
          | cons source held =>
              obtain ⟨behind, remaining⟩ := sound.paging mode _ current
              have notCursor : reader.mode = .cursor →
                  held = held ++ behind := by
                intro cursor
                exact absurd (mode.symm.trans cursor) (by decide)
              obtain ⟨next, consumed, kept, position⟩ :=
                consumeCurrentRow_sound sound remaining rfl notCursor
              simp only [consumed]
              exact takes_row remaining kept position

theorem readItems_answers {table : SourceTable} {reader : PostgresReader}
    (sound : Sound table reader) (count : Nat) :
    ∃ later, readItems table count reader = .ok
        (answers (table.after (some reader.lastCustomerId)) count, later) ∧
      Sound table later ∧
      table.after (some later.lastCustomerId) =
        (table.after (some reader.lastCustomerId)).drop count := by
  induction count generalizing reader with
  | zero => exact ⟨reader, rfl, sound, rfl⟩
  | succ count ih =>
      obtain ⟨next, item, kept, behind⟩ := readItem_takes sound
      obtain ⟨later, items, still, rest⟩ := ih kept
      refine ⟨later, ?_, still, ?_⟩
      · rw [readItems, item]
        simp only [bind, Except.bind]
        rw [items, behind, answers]
        rfl
      · rw [rest, behind, List.drop_tail]

/-! ### Opening -/

theorem openReader_sound {table : SourceTable} {readerMode : String}
    {fetchSize pageSize : Int} {checkpoint : Checkpoint} {position : Int64}
    (mode : readerMode = "cursor" ∨ readerMode = "paging")
    (fetches : 1 ≤ fetchSize ∧ fetchSize ≤ maxReadBatchSize)
    (pages : 1 ≤ pageSize ∧ pageSize ≤ maxReadBatchSize)
    (resumes : positionOf checkpoint = .ok position)
    (natural : 0 ≤ position) :
    ∃ reader, openReader table { readerMode, fetchSize, pageSize } checkpoint =
        .ok reader ∧
      Sound table reader ∧ reader.lastCustomerId = position := by
  have sizes : ∀ size field, 1 ≤ size ∧ size ≤ maxReadBatchSize →
      positiveInt size field maxReadBatchSize = .ok size := by
    intro size field bounded
    unfold positiveInt
    rw [ensure, if_pos (by omega)]
    rfl
  unfold openReader
  simp only [sizes _ _ fetches, sizes _ _ pages, resumes, bind, Except.bind]
  rcases mode with rfl | rfl
  · refine ⟨_, rfl, ?_, rfl⟩
    constructor
    · exact pages.1
    · exact natural
    · intro _
      rfl
    · intro paging
      cases paging
  · refine ⟨_, rfl, ?_, rfl⟩
    constructor
    · exact pages.1
    · exact natural
    · intro cursor
      cases cursor
    · intro _ rows impossible
      cases impossible

/-- From the beginning every row comes once and in order, and from every later
checkpoint the remaining rows, in both modes. -/
def EveryRowOnce (table : SourceTable) (fetchSize pageSize : Int) : Prop :=
  ∀ readerMode ∈ ["cursor", "paging"], ∃ reader,
    openReader table { readerMode, fetchSize, pageSize } .null = .ok reader ∧
      ∀ count, ∃ later,
        readItems table count reader =
            .ok (answers table.rows count, later) ∧
          ∃ reopened,
            openReader table { readerMode, fetchSize, pageSize }
                later.checkpointInfo = .ok reopened ∧
              ∀ further, ∃ last, readItems table further reopened =
                .ok (answers (table.rows.drop count) further, last)

theorem answers_injective {left right : List SourceRow}
    (same : ∀ count, answers left count = answers right count) :
    left = right := by
  induction left generalizing right with
  | nil =>
      have heads := (List.cons.inj (same 1)).1
      exact (List.head?_eq_none_iff.mp heads.symm).symm
  | cons row rest ih =>
      cases right with
      | nil =>
          have heads := (List.cons.inj (same 1)).1
          cases heads
      | cons other others =>
          have heads := (List.cons.inj (same 1)).1
          injection heads with rows
          have tails := ih (fun count => (List.cons.inj (same (count + 1))).2)
          rw [rows]
          exact congrArg (List.cons other) tails

theorem after_zero_iff {table : SourceTable} :
    table.after (some 0) = table.rows ↔
      ∀ row ∈ table.rows, 0 < row.customerId := by
  unfold SourceTable.after
  rw [List.filter_eq_self]
  simp only [decide_eq_true_iff]

section Exact

variable {table : SourceTable} {fetchSize pageSize : Int}
  (fetches : 1 ≤ fetchSize ∧ fetchSize ≤ maxReadBatchSize)
  (pages : 1 ≤ pageSize ∧ pageSize ≤ maxReadBatchSize)

include fetches pages

theorem EveryRowOnce.positive
    (once : EveryRowOnce table fetchSize pageSize) :
    ∀ row ∈ table.rows, 0 < row.customerId := by
  obtain ⟨reader, opens, reads⟩ := once "cursor" List.mem_cons_self
  obtain ⟨same, opened, sound, position⟩ := @openReader_sound table "cursor"
    fetchSize pageSize .null 0 (Or.inl rfl) fetches pages rfl (by decide)
  rw [opens] at opened
  injection opened with readers
  subst readers
  apply after_zero_iff.mp
  apply answers_injective
  intro count
  obtain ⟨later, given, _⟩ := readItems_answers sound count
  obtain ⟨other, expected, _⟩ := reads count
  rw [given, position] at expected
  injection expected with pairs
  exact congrArg Prod.fst pairs

theorem everyRowOnce_of_positive
    (positive : ∀ row ∈ table.rows, 0 < row.customerId) :
    EveryRowOnce table fetchSize pageSize := by
  intro readerMode member
  have mode : readerMode = "cursor" ∨ readerMode = "paging" := by
    simpa using member
  have whole := after_zero_iff.mpr positive
  obtain ⟨reader, opens, sound, position⟩ := @openReader_sound table readerMode
    fetchSize pageSize .null 0 mode fetches pages rfl (by decide)
  refine ⟨reader, opens, ?_⟩
  intro count
  obtain ⟨later, items, kept, behind⟩ := readItems_answers sound count
  rw [position, whole] at items behind
  refine ⟨later, items, ?_⟩
  obtain ⟨reopened, reopens, ready, resumed⟩ := @openReader_sound table
    readerMode fetchSize pageSize later.checkpointInfo later.lastCustomerId
    mode fetches pages (if_pos kept.position) kept.position
  refine ⟨reopened, reopens, ?_⟩
  intro further
  obtain ⟨last, rest, _⟩ := readItems_answers ready further
  rw [resumed, behind] at rest
  exact ⟨last, rest⟩

/-- The reader gives every row once exactly if all ids are positive. -/
theorem everyRowOnce_iff :
    EveryRowOnce table fetchSize pageSize ↔
      ∀ row ∈ table.rows, 0 < row.customerId := by
  constructor
  · exact EveryRowOnce.positive fetches pages
  · exact everyRowOnce_of_positive fetches pages

end Exact

def positiveRows : SourceTable :=
  { rows := [⟨1, "Bo", false, -250⟩, ⟨4, "Ada", true, 120⟩,
      ⟨7, "Cy", true, 50000⟩]
    ascending := by decide
    zeroFree := by
      unfold ZeroFree
      decide }

/-- Three positive ids, and three of which one is negative. -/
theorem everyRowOnce_iff_three :
    EveryRowOnce positiveRows 500 2 ∧
      ¬EveryRowOnce RawSqlx.threeRows 500 2 := by
  constructor
  · apply (everyRowOnce_iff (by decide) (by decide)).mpr
    decide
  · intro once
    have positive := (everyRowOnce_iff (by decide) (by decide)).mp once
    exact absurd positive (by decide)

/-- One row with the id zero. -/
def zeroId : SourceTable :=
  { rows :=
      [{ customerId := 0
         fullName := "a"
         isActive := true
         balanceCents := 0 }]
    ascending := List.pairwise_singleton _ _
    zeroFree := by
      intro row member
      rw [List.mem_singleton.mp member]
      unfold ZeroFree
      decide }

/-- The row is never given, in neither mode. -/
theorem zero_id_lost : ¬EveryRowOnce zeroId 500 750 := by
  intro once
  have positive := once.positive (by decide) (by decide) _ List.mem_cons_self
  exact absurd positive (by decide)

end JBeret

end Projection
