/-
The import of a CSV file: what the processor makes of a record, the statements
that the writer binds, and what PostgreSQL keeps of them.

Timestamps are bound as text and cast by the statement.  The text of an INSERT
is given by its number of rows and its conflict clause; warnings are left out.
-/

import OxideWorkloads.CsvImport.VerifyExact
import OxideWorkloads.Foundation.Chunks

namespace CsvImport

open Foundation
open Foundation.Checks
open Foundation.LineLog (Bytes)

inductive FailureCategory where
  | userComponent
  | transientInfrastructure
  | unsupportedCapability
  | cancelled
  deriving DecidableEq

/-! ### The processor -/

def expectedFieldCount : Nat := 5

structure CustomerRow where
  customerId : Bigint
  name : String
  email : String
  amount : Bigint
  createdAtRfc3339 : String
  deriving DecidableEq

def process (platform : Platform) (item : List String) :
    Except FailureCategory CustomerRow := do
  ensure (item.length = expectedFieldCount) FailureCategory.userComponent
  let customerId ← require (item[0]?.bind parseI64) .userComponent
  let name ← require item[1]? .userComponent
  let email ← require item[2]? .userComponent
  let amount ← require (item[3]?.bind parseI64) .userComponent
  let createdAt ← require (item[4]?.bind platform.parseDateTime)
    .userComponent
  return {
    customerId
    name
    email
    amount
    createdAtRfc3339 := platform.toRfc3339 createdAt }

/-! ### The database -/

inductive BusinessTransactionError where
  | infrastructure
  | rejected
  | cancelled
  | other
  deriving DecidableEq

inductive BusinessValue where
  | i64 (value : Bigint)
  | text (value : String)
  deriving DecidableEq

structure BusinessStatement where
  rowCount : Nat
  conflictClause : Option String
  values : List BusinessValue

/-- The cast of a text to `timestamptz`, in microseconds from the epoch. -/
structure Postgres where
  toTimestamptz : String → Option Int

/-- The cast takes the rendering of an instant to the nearest microsecond,
where it accepts it. -/
def Postgres.Rounds (postgres : Postgres) (platform : Platform) : Prop :=
  ∀ instant micros,
    postgres.toTimestamptz (platform.toRfc3339 instant) = some micros →
      2 * (1000 * micros -
          (instant.seconds * 1000000000 + instant.nanoseconds)) ≤ 1000 ∧
        -1000 ≤ 2 * (1000 * micros -
          (instant.seconds * 1000000000 + instant.nanoseconds))

/-- A row as PostgreSQL keeps it. -/
def storedRow (postgres : Postgres) (customerId : Bigint)
    (name email : String) (amount : Bigint) (createdAt : String) :
    Except BusinessTransactionError { row : StoredRow // row.ZeroFree } :=
  if free : zeroChar ∉ name.toList ∧ zeroChar ∉ email.toList then do
    let micros ← require (postgres.toTimestamptz createdAt) .rejected
    return ⟨{ customerId, name, email, amount, createdAt := micros }, free⟩
  else .error .rejected

/-- The rows of the values of a statement, five for each row. -/
def storedRows (postgres : Postgres) : List BusinessValue →
    Except BusinessTransactionError (List { row : StoredRow // row.ZeroFree })
  | [] => .ok []
  | .i64 customerId :: .text name :: .text email :: .i64 amount ::
      .text createdAt :: rest => do
        let row ← storedRow postgres customerId name email amount createdAt
        let rows ← storedRows postgres rest
        return row :: rows
  | _ => .error .rejected

/-- Rows with one more; an id is taken once. -/
def insertOrdered (row : StoredRow) :
    List StoredRow → Option (List StoredRow)
  | [] => some [row]
  | other :: rest =>
      if row.customerId.val < other.customerId.val then
        some (row :: other :: rest)
      else if row.customerId = other.customerId then none
      else (insertOrdered row rest).map (List.cons other)

theorem mem_insertOrdered {row other : StoredRow}
    {rows after : List StoredRow}
    (inserted : insertOrdered row rows = some after)
    (member : other ∈ after) : other = row ∨ other ∈ rows := by
  induction rows generalizing after with
  | nil =>
      cases inserted
      exact Or.inl (List.mem_singleton.mp member)
  | cons first rest ih =>
      rw [insertOrdered] at inserted
      split at inserted
      · cases inserted
        exact List.mem_cons.mp member
      · split at inserted
        · cases inserted
        · rw [Option.map_eq_some_iff] at inserted
          obtain ⟨tail, below, same⟩ := inserted
          rw [← same] at member
          rcases List.mem_cons.mp member with here | later
          · exact Or.inr (here ▸ List.mem_cons_self)
          · rcases ih below later with new | old
            · exact Or.inl new
            · exact Or.inr (List.mem_cons_of_mem _ old)

theorem insertOrdered_ascending {row : StoredRow}
    {rows after : List StoredRow}
    (inserted : insertOrdered row rows = some after)
    (ascending : rows.Pairwise
      (fun earlier later => earlier.customerId.val < later.customerId.val)) :
    after.Pairwise
      (fun earlier later =>
        earlier.customerId.val < later.customerId.val) := by
  induction rows generalizing after with
  | nil =>
      cases inserted
      exact List.pairwise_singleton _ _
  | cons first rest ih =>
      obtain ⟨below, others⟩ := List.pairwise_cons.mp ascending
      rw [insertOrdered] at inserted
      split at inserted
      · rename_i before
        cases inserted
        apply List.Pairwise.cons ?_ ascending
        intro other member
        rcases List.mem_cons.mp member with here | later
        · rw [here]
          exact before
        · exact lt_trans before (below other later)
      · rename_i notBefore
        split at inserted
        · cases inserted
        · rename_i different
          rw [Option.map_eq_some_iff] at inserted
          obtain ⟨tail, behind, same⟩ := inserted
          rw [← same]
          apply List.Pairwise.cons ?_ (ih behind others)
          intro other member
          rcases mem_insertOrdered behind member with new | old
          · rw [new]
            have distinct : first.customerId.val ≠ row.customerId.val :=
              fun equal => different (Subtype.ext equal.symm)
            omega
          · exact below other old

def ImportedTable.empty : ImportedTable :=
  { rows := []
    ascending := List.Pairwise.nil
    zeroFree := by
      intro row member
      cases member }

/-- Insert one row; a row with a taken id is refused, or left out if the
statement has a conflict clause. -/
def ImportedTable.insert (conflictClause : Option String)
    (table : ImportedTable) (row : { row : StoredRow // row.ZeroFree }) :
    Except BusinessTransactionError ImportedTable :=
  match inserted : insertOrdered row.val table.rows with
  | some rows => .ok {
      rows
      ascending := insertOrdered_ascending inserted table.ascending
      zeroFree := by
        intro other member
        rcases mem_insertOrdered inserted member with new | old
        · rw [new]
          exact row.property
        · exact table.zeroFree other old }
  | none =>
      match conflictClause with
      | none => .error .rejected
      | some _ => .ok table

def execute (postgres : Postgres) (table : ImportedTable)
    (statement : BusinessStatement) :
    Except BusinessTransactionError ImportedTable := do
  let rows ← storedRows postgres statement.values
  ensure (rows.length = statement.rowCount) .rejected
  rows.foldlM (ImportedTable.insert statement.conflictClause) table

/-! ### The writer -/

def maxParametersPerStatement : Nat := 2000
def columnsPerRow : Nat := 5
def rowsPerStatement : Nat := max (maxParametersPerStatement / columnsPerRow) 1

def boundValues (item : CustomerRow) : List BusinessValue :=
  [.i64 item.customerId, .text item.name, .text item.email, .i64 item.amount,
    .text item.createdAtRfc3339]

def statementOf (conflictClause : Option String) (chunk : List CustomerRow) :
    BusinessStatement :=
  { rowCount := chunk.length
    conflictClause
    values := chunk.flatMap boundValues }

def failureOf : BusinessTransactionError → FailureCategory
  | .infrastructure => .transientInfrastructure
  | .rejected => .userComponent
  | .cancelled => .cancelled
  | .other => .transientInfrastructure

inductive WriteOutcome where
  | written
  | stopped
  deriving DecidableEq

/-- The writer, with the table as its transaction sees it. -/
def write (postgres : Postgres) (conflictClause : Option String)
    (stopRequested : Bool) (transaction : Option ImportedTable)
    (items : List CustomerRow) :
    Except FailureCategory (WriteOutcome × Option ImportedTable) := do
  if stopRequested then return (.stopped, transaction)
  if items = [] then return (.written, transaction)
  let table ← require transaction .unsupportedCapability
  let after ← ((Chunks.chunks rowsPerStatement items).foldlM
    (fun table chunk =>
      execute postgres table (statementOf conflictClause chunk))
    table).mapError failureOf
  return (.written, some after)

/-! ### The import -/

/-- One chunk of records is processed, written and committed. -/
def importChunk (platform : Platform) (postgres : Postgres)
    (conflictClause : Option String) (table : ImportedTable)
    (records : List (List String)) : Except FailureCategory ImportedTable := do
  let items ← records.mapM (process platform)
  let result ← write postgres conflictClause false (some table) items
  require result.2 .unsupportedCapability

/-- Chunks one after another, from an empty table. -/
def importChunks (platform : Platform) (postgres : Postgres)
    (conflictClause : Option String) (chunks : List (List (List String))) :
    Except FailureCategory ImportedTable :=
  chunks.foldlM (importChunk platform postgres conflictClause)
    ImportedTable.empty

end CsvImport
