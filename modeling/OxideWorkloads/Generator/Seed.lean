/-
The seeding of the source table: generated rows, inserted in batches.

The rows are drawn from one generator; a batch is one statement, with four
numbered placeholders for each row.  An index out of the range of a table of
names stops the program, as fuel that runs out does.
-/

import OxideWorkloads.Foundation.Chunks
import OxideWorkloads.Foundation.Placeholders
import OxideWorkloads.Foundation.Sending
import OxideWorkloads.Generator.UniformRange

namespace Generator

open Foundation

namespace PostgresPostgres

def batchRows : Nat := 500
def columnsPerRow : Nat := 4

def firstNames : List String :=
  ["Alice", "Bob", "Carol", "Dave", "Erin", "Frank", "Grace", "Heidi", "Ivan",
    "Judy"]

def lastNames : List String :=
  ["Smith", "Johnson", "Lee", "Brown", "Garcia", "Miller", "Davis", "Wilson",
    "Moore", "Taylor"]

structure GeneratedRow where
  customerId : Int64
  fullName : String
  isActive : Bool
  balanceCents : Int64
  deriving DecidableEq

/-- A value bound to a placeholder. -/
inductive BoundValue where
  | bigint (value : Int64)
  | text (value : String)
  | boolean (value : Bool)
  deriving DecidableEq

structure Statement where
  text : String
  values : List BoundValue
  deriving DecidableEq

def placeholderGroup (param : Nat) : String :=
  let c1 := param
  let c2 := param + 1
  let c3 := param + 2
  let c4 := param + 3
  "($" ++ Text.decimal c1 ++ ", $" ++ Text.decimal c2 ++ ", $" ++
    Text.decimal c3 ++ ", $" ++ Text.decimal c4 ++ ")"

def insertInto : String :=
  "INSERT INTO app_source.source_customer (customer_id, full_name, is_active, balance_cents) VALUES "

def insertSql (rowCount : Nat) : String :=
  let rows := ", ".intercalate
    (Placeholders.groups columnsPerRow placeholderGroup 1 rowCount)
  insertInto ++ rows

def boundValues (row : GeneratedRow) : List BoundValue :=
  [.bigint row.customerId, .text row.fullName, .boolean row.isActive,
    .bigint row.balanceCents]

def statementOf (batch : List GeneratedRow) : Statement :=
  { text := insertSql batch.length
    values := batch.flatMap boundValues }

section Rows

variable {ρ : Type} [Rng ρ]

def generateRow (fuel : Nat) (rng : ρ) (rowIndex idOffset : UInt64) :
    Option (GeneratedRow × ρ) := do
  let customerId := (idOffset + rowIndex).toInt64
  let first ← firstNames[rowIndex.toNat % firstNames.length]?
  let (index, rng) ← uniformRange fuel rng 0 (UInt64.ofNat lastNames.length)
  let last ← lastNames[index.toNat]?
  let (activity, rng) ← uniformRange fuel rng 0 10
  let (balance, rng) ← uniformRange fuel rng 0 1000000
  return ({
    customerId
    fullName := first ++ " " ++ last
    isActive := activity ≠ 0
    balanceCents := balance.toInt64 }, rng)

/-- The rows with the given indices, drawn one after another. -/
def generateRows (fuel : Nat) (idOffset : UInt64) :
    List UInt64 → ρ → Option (List GeneratedRow × ρ)
  | [], rng => some ([], rng)
  | rowIndex :: rest, rng => do
      let (row, rng) ← generateRow fuel rng rowIndex idOffset
      let (rows, rng) ← generateRows fuel idOffset rest rng
      return (row :: rows, rng)

/-- The indices of a batch. -/
def indicesFrom (rowIndex : UInt64) (batchLen : Nat) : List UInt64 :=
  (List.range batchLen).map fun offset => rowIndex + UInt64.ofNat offset

end Rows

section Seeding

variable {ρ δ ε : Type} [SeedableRng ρ]

def seedLoop (fuel : Nat) (execute : δ → Statement → Except ε δ)
    (rows idOffset : UInt64) :
    Nat → UInt64 → ρ → δ → Option (List Statement × Except ε δ)
  | 0, _, _, _ => none
  | turns + 1, rowIndex, rng, pool =>
      if rowIndex ≤ rows then do
        let batchLen := min batchRows (rows - rowIndex + 1).toNat
        let (batch, rng) ←
          generateRows fuel idOffset (indicesFrom rowIndex batchLen) rng
        let statement := statementOf batch
        match execute pool statement with
        | .error error => return ([statement], .error error)
        | .ok pool =>
            let (sent, result) ← seedLoop fuel execute rows idOffset turns
              (rowIndex + UInt64.ofNat batchLen) rng pool
            return (statement :: sent, result)
      else return ([], .ok pool)

/-- The statements of the seeding, and how it ends. -/
def seed (fuel : Nat) (execute : δ → Statement → Except ε δ) (pool : δ)
    (rows seed idOffset : UInt64) : Option (List Statement × Except ε δ) :=
  seedLoop fuel execute rows idOffset fuel 1
    (SeedableRng.seedFromU64 seed : ρ) pool

end Seeding

end PostgresPostgres

end Generator
