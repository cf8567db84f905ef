/-
The statements of the writer: their text, and which of them are executed.

The transaction is any state that statements are executed on, with any outcome
for each of them.
-/

import OxideWorkloads.CsvImport.Import
import OxideWorkloads.Foundation.Placeholders
import OxideWorkloads.Foundation.Sending

namespace CsvImport

open Foundation
open Foundation.Sending (sendAll sent_initial sent_result accepted_all
  refused_last)

/-! ### The text of a statement -/

def placeholderGroup (param : Nat) : String :=
  let c1 := param
  let c2 := param + 1
  let c3 := param + 2
  let c4 := param + 3
  let c5 := param + 4
  "($" ++ Text.decimal c1 ++ ", $" ++ Text.decimal c2 ++ ", $" ++
    Text.decimal c3 ++ ", $" ++ Text.decimal c4 ++ ", $" ++
    Text.decimal c5 ++ "::timestamptz)"

def insertInto : String :=
  "INSERT INTO app_business.imported_customer (customer_id, name, email, amount, created_at) VALUES"

def insertSql (conflictClause : Option String) (rowCount : Nat) : String :=
  let rows := ", ".intercalate
    (Placeholders.groups columnsPerRow placeholderGroup 1 rowCount)
  match conflictClause with
  | some conflict => insertInto ++ " " ++ rows ++ " " ++ conflict
  | none => insertInto ++ " " ++ rows

def BusinessStatement.text (statement : BusinessStatement) : String :=
  insertSql statement.conflictClause statement.rowCount

/-! ### The execution -/

section Execution

variable {δ : Type}

structure WriteContext (δ : Type) where
  stopRequested : Bool
  transaction : Option δ

/-- The statements of the chunks, executed until one fails. -/
def executeChunks
    (execute : δ → BusinessStatement → Except BusinessTransactionError δ)
    (conflictClause : Option String) :
    δ → List (List CustomerRow) →
      List BusinessStatement × Except FailureCategory δ
  | transaction, [] => ([], .ok transaction)
  | transaction, chunk :: rest =>
      let statement := statementOf conflictClause chunk
      match execute transaction statement with
      | .error error => ([statement], .error (failureOf error))
      | .ok after =>
          let (executed, result) :=
            executeChunks execute conflictClause after rest
          (statement :: executed, result)

/-- The statements that the writer executes, and its result. -/
def writeItems
    (execute : δ → BusinessStatement → Except BusinessTransactionError δ)
    (conflictClause : Option String) (context : WriteContext δ)
    (items : List CustomerRow) :
    List BusinessStatement × Except FailureCategory WriteOutcome :=
  if context.stopRequested then ([], .ok .stopped)
  else if items = [] then ([], .ok .written)
  else
    match context.transaction with
    | none => ([], .error .unsupportedCapability)
    | some transaction =>
        let (executed, result) := executeChunks execute conflictClause
          transaction (Chunks.chunks rowsPerStatement items)
        (executed, result.map fun _ => .written)

end Execution

theorem executeChunks_result (postgres : Postgres)
    (conflictClause : Option String) (table : ImportedTable)
    (chunks : List (List CustomerRow)) :
    (executeChunks (execute postgres) conflictClause table chunks).2 =
      (chunks.foldlM (fun table chunk =>
        execute postgres table (statementOf conflictClause chunk))
          table).mapError failureOf := by
  induction chunks generalizing table with
  | nil => rfl
  | cons chunk rest ih =>
      rw [List.foldlM_cons]
      cases outcome : execute postgres table
          (statementOf conflictClause chunk) with
      | error error =>
          simp only [executeChunks, outcome]
          rfl
      | ok after =>
          simp only [executeChunks, outcome, ih]
          rfl

theorem written_result (table : ImportedTable)
    (result : Except FailureCategory ImportedTable) :
    ((do
      let _ ← Checks.require (some table) FailureCategory.unsupportedCapability
      let after ← result
      return (WriteOutcome.written, some after)).map Prod.fst :
        Except FailureCategory WriteOutcome) =
      result.map fun _ => .written := by
  cases result with
  | error error => rfl
  | ok after => rfl

/-- The import's writer is this one, in a transaction of PostgreSQL. -/
theorem write_same (postgres : Postgres) (conflictClause : Option String)
    (stopRequested : Bool) (transaction : Option ImportedTable)
    (items : List CustomerRow) :
    (write postgres conflictClause stopRequested transaction items).map
        Prod.fst =
      (writeItems (execute postgres) conflictClause
        { stopRequested, transaction } items).2 := by
  unfold write writeItems
  cases stopRequested with
  | true => rfl
  | false =>
      by_cases empty : items = []
      · rw [if_pos empty, if_pos empty]
        rfl
      · rw [if_neg empty, if_neg empty]
        cases transaction with
        | none => rfl
        | some table =>
            simp only [executeChunks_result]
            exact written_result table _

/-! ### Statements bind their chunk -/

def groupTexts : List String := [", ", ", ", ", ", ", ", "::timestamptz)"]

/-- The groups of as many rows. -/
def rowGroups (rowCount : Nat) : String :=
  ", ".intercalate
    ((List.range rowCount).map fun row =>
      placeholderGroup (1 + columnsPerRow * row))

/-- What the clause adds to a statement. -/
def clauseText (conflictClause : Option String) : String :=
  conflictClause.elim "" fun conflict => " " ++ conflict

theorem placeholderGroup_eq (param : Nat) :
    placeholderGroup param =
      "(" ++ Placeholders.numbered param groupTexts := by
  unfold placeholderGroup groupTexts
  simp only [Placeholders.numbered, String.append_assoc]
  rfl

theorem rowGroups_numbers (rowCount : Nat) :
    Placeholders.numbers (rowGroups rowCount).toList =
      List.range' 1 (columnsPerRow * rowCount) := by
  have plain : ∀ text ∈ groupTexts, Placeholders.Plain text.toList := by
    decide
  have numbered := Placeholders.numbers_rows plain 1 rowCount
  rw [← funext placeholderGroup_eq, Placeholders.groups_eq] at numbered
  exact numbered

theorem insertSql_eq (conflictClause : Option String) (rowCount : Nat) :
    insertSql conflictClause rowCount =
      insertInto ++ " " ++ rowGroups rowCount ++
        clauseText conflictClause := by
  unfold insertSql rowGroups clauseText
  rw [Placeholders.groups_eq]
  cases conflictClause with
  | none => exact (String.append_empty).symm
  | some conflict => exact String.append_assoc

/-- The statement binds the values of a chunk to placeholders with their
numbers. -/
structure Binds (conflictClause : Option String) (chunk : List CustomerRow)
    (statement : BusinessStatement) : Prop where
  values : statement.values = chunk.flatMap boundValues
  length : statement.values.length = columnsPerRow * chunk.length
  most : statement.values.length ≤ maxParametersPerStatement
  text : statement.text =
    insertInto ++ " " ++ rowGroups chunk.length ++ clauseText conflictClause
  numbers : Placeholders.numbers (rowGroups chunk.length).toList =
    List.range' 1 statement.values.length

theorem statementOf_binds {chunk : List CustomerRow}
    (short : chunk.length ≤ rowsPerStatement)
    (conflictClause : Option String) :
    Binds conflictClause chunk (statementOf conflictClause chunk) := by
  have length : (chunk.flatMap boundValues).length =
      columnsPerRow * chunk.length :=
    @Placeholders.values_length _ _ columnsPerRow boundValues
      (fun _ => rfl) chunk
  exact {
    values := rfl
    length
    most := by
      change (chunk.flatMap boundValues).length ≤ maxParametersPerStatement
      rw [length]
      exact Nat.mul_le_mul_left columnsPerRow short
    text := insertSql_eq conflictClause chunk.length
    numbers := by
      change _ = List.range' 1 (chunk.flatMap boundValues).length
      rw [length]
      exact rowGroups_numbers chunk.length }

/-! ### Every item is bound once -/

section Exact

variable {δ : Type}
  {execute : δ → BusinessStatement → Except BusinessTransactionError δ}

theorem executeChunks_sends (conflictClause : Option String)
    (transaction : δ) (chunks : List (List CustomerRow)) :
    executeChunks execute conflictClause transaction chunks =
      ((sendAll execute transaction
          (chunks.map (statementOf conflictClause))).1,
        (sendAll execute transaction
          (chunks.map (statementOf conflictClause))).2.mapError
            failureOf) := by
  induction chunks generalizing transaction with
  | nil => rfl
  | cons chunk rest ih =>
      rw [List.map_cons]
      cases outcome : execute transaction
          (statementOf conflictClause chunk) with
      | error error =>
          rw [Sending.sendAll_error _ outcome]
          simp only [executeChunks, outcome]
          rfl
      | ok after =>
          rw [Sending.sendAll_ok _ outcome]
          simp only [executeChunks, outcome, ih]

/-- What the writer executes and returns, for each of its contexts. -/
structure Executes
    (execute : δ → BusinessStatement → Except BusinessTransactionError δ)
    (conflictClause : Option String) (context : WriteContext δ)
    (items : List CustomerRow) (chunks : List (List CustomerRow))
    (executed : List BusinessStatement)
    (result : Except FailureCategory WriteOutcome) : Prop where
  bound : executed = chunks.map (statementOf conflictClause)
  inOrder : chunks.flatten <+: items
  binds : ∀ chunk ∈ chunks, chunk ≠ [] ∧
    Binds conflictClause chunk (statementOf conflictClause chunk)
  stopped : context.stopRequested = true →
    executed = [] ∧ result = .ok .stopped
  nothing : context.stopRequested = false → items = [] →
    executed = [] ∧ result = .ok .written
  outside : context.stopRequested = false → items ≠ [] →
    context.transaction = none →
      executed = [] ∧ result = .error .unsupportedCapability
  succeeds : ∀ transaction last, context.stopRequested = false →
    items ≠ [] → context.transaction = some transaction →
    executed.foldlM execute transaction = .ok last →
      chunks.flatten = items ∧ result = .ok .written
  fails : ∀ transaction error, context.stopRequested = false →
    items ≠ [] → context.transaction = some transaction →
    executed.foldlM execute transaction = .error error →
      result = .error (failureOf error) ∧
        ∃ before failed reached, executed = before ++ [failed] ∧
          before.foldlM execute transaction = .ok reached ∧
          execute reached failed = .error error

theorem writeItems_eq {context : WriteContext δ} {items : List CustomerRow}
    {transaction : δ} (running : context.stopRequested = false)
    (nonempty : items ≠ []) (inside : context.transaction = some transaction)
    (conflictClause : Option String) :
    writeItems execute conflictClause context items =
      ((sendAll execute transaction
          ((Chunks.chunks rowsPerStatement items).map
            (statementOf conflictClause))).1,
        ((sendAll execute transaction
          ((Chunks.chunks rowsPerStatement items).map
            (statementOf conflictClause))).2.mapError failureOf).map
              fun _ => .written) := by
  unfold writeItems
  rw [running, if_neg Bool.false_ne_true, if_neg nonempty]
  simp only [inside, executeChunks_sends]

/-- The statements sent are those of the first chunks. -/
theorem sent_chunks (conflictClause : Option String) (transaction : δ)
    (chunks : List (List CustomerRow)) :
    ∃ count, (sendAll execute transaction
        (chunks.map (statementOf conflictClause))).1 =
      (chunks.take count).map (statementOf conflictClause) := by
  have initial := sent_initial execute transaction
    (chunks.map (statementOf conflictClause))
  rw [List.prefix_iff_eq_take, ← List.map_take] at initial
  exact ⟨_, initial⟩

theorem take_flatten {items : List CustomerRow}
    {chunks : List (List CustomerRow)} (whole : chunks.flatten = items)
    (count : Nat) : (chunks.take count).flatten <+: items := by
  refine ⟨(chunks.drop count).flatten, ?_⟩
  rw [← List.flatten_append, List.take_append_drop, whole]

/-- Without statements, nothing is bound. -/
theorem executes_nothing {conflictClause : Option String}
    {context : WriteContext δ} {items : List CustomerRow}
    {result : Except FailureCategory WriteOutcome}
    (stopped : context.stopRequested = true → result = .ok .stopped)
    (nothing : context.stopRequested = false → items = [] →
      result = .ok .written)
    (outside : context.stopRequested = false → items ≠ [] →
      context.transaction = none ∧
        result = .error .unsupportedCapability) :
    Executes execute conflictClause context items [] [] result where
  bound := rfl
  inOrder := List.nil_prefix
  binds := by
    intro chunk member
    cases member
  stopped := fun stop => ⟨rfl, stopped stop⟩
  nothing := fun running empty => ⟨rfl, nothing running empty⟩
  outside := fun running nonempty _ => ⟨rfl, (outside running nonempty).2⟩
  succeeds := by
    intro transaction last running nonempty inside
    rw [(outside running nonempty).1] at inside
    cases inside
  fails := by
    intro transaction error running nonempty inside
    rw [(outside running nonempty).1] at inside
    cases inside

/-- Inside a transaction, the chunks are bound until a statement fails. -/
theorem executes_inside {conflictClause : Option String}
    {context : WriteContext δ} {items : List CustomerRow} {transaction : δ}
    (running : context.stopRequested = false) (nonempty : items ≠ [])
    (inside : context.transaction = some transaction) :
    ∃ chunks, Executes execute conflictClause context items chunks
      (writeItems execute conflictClause context items).1
      (writeItems execute conflictClause context items).2 := by
  have splits := Chunks.chunks_splits (by decide : 0 < rowsPerStatement) items
  obtain ⟨count, sent⟩ := @sent_chunks δ execute conflictClause transaction
    (Chunks.chunks rowsPerStatement items)
  have outcome := sent_result execute transaction
    ((Chunks.chunks rowsPerStatement items).map (statementOf conflictClause))
  rw [writeItems_eq running nonempty inside]
  refine ⟨(Chunks.chunks rowsPerStatement items).take count, ?_⟩
  constructor
  case bound => exact sent
  case inOrder => exact take_flatten splits.whole count
  case binds =>
    intro chunk member
    have here := List.take_subset count _ member
    exact ⟨splits.nonempty chunk here,
      statementOf_binds (splits.bounded chunk here) conflictClause⟩
  case stopped =>
    intro halted
    rw [running] at halted
    cases halted
  case nothing => exact fun _ empty => absurd empty nonempty
  case outside =>
    intro _ _ without
    rw [inside] at without
    cases without
  case succeeds =>
    intro other last _ _ same accepted
    rw [inside] at same
    cases same
    rw [outcome] at accepted
    have all := congrArg List.length
      (sent.symm.trans (accepted_all accepted))
    rw [List.length_map, List.length_map, List.length_take] at all
    have enough : (Chunks.chunks rowsPerStatement items).length ≤ count := by
      omega
    constructor
    · rw [List.take_of_length_le enough]
      exact splits.whole
    · change ((sendAll execute transaction _).2.mapError _).map _ = _
      rw [accepted]
      rfl
  case fails =>
    intro other error _ _ same refused
    rw [inside] at same
    cases same
    rw [outcome] at refused
    constructor
    · change ((sendAll execute transaction _).2.mapError _).map _ = _
      rw [refused]
      rfl
    · exact refused_last refused

/-- The statements bind the items of a first part of the list, each once and
in order: all items if every statement succeeds, and none of the chunks behind
a statement that fails. -/
theorem write_exact
    (execute : δ → BusinessStatement → Except BusinessTransactionError δ)
    (conflictClause : Option String) (context : WriteContext δ)
    (items : List CustomerRow) :
    ∃ chunks, Executes execute conflictClause context items chunks
      (writeItems execute conflictClause context items).1
      (writeItems execute conflictClause context items).2 := by
  cases stop : context.stopRequested with
  | true =>
      refine ⟨[], ?_⟩
      unfold writeItems
      rw [if_pos stop]
      apply executes_nothing (fun _ => rfl)
      · intro running
        rw [stop] at running
        cases running
      · intro running
        rw [stop] at running
        cases running
  | false =>
      have running : ¬context.stopRequested = true := by
        rw [stop]
        exact Bool.false_ne_true
      by_cases empty : items = []
      · refine ⟨[], ?_⟩
        unfold writeItems
        rw [if_neg running, if_pos empty]
        apply executes_nothing (fun halted => absurd halted running)
        · exact fun _ _ => rfl
        · exact fun _ nonempty => absurd empty nonempty
      · cases inside : context.transaction with
        | none =>
            refine ⟨[], ?_⟩
            unfold writeItems
            rw [if_neg running, if_neg empty]
            simp only [inside]
            apply executes_nothing (fun halted => absurd halted running)
            · exact fun _ nothing => absurd nothing empty
            · exact fun _ _ => ⟨inside, rfl⟩
        | some transaction => exact executes_inside stop empty inside

end Exact

end CsvImport
