/-
The generator of CSV data sets.

Rows are drawn from one generator, whatever is injected into the file.  An
instant out of the range of the calendar stops the program, as an index out of
range and fuel that runs out do; I/O errors, which leave no manifest, are left
out.
-/

import OxideWorkloads.CsvImport.Verify
import OxideWorkloads.Generator.Seed

namespace Generator

open Foundation
open Foundation.LineLog (Bytes)
open Foundation.Json (utf8)
open CsvImport (Platform DateTime minUtc maxUtc)
open Projection (hexDigest)
open PostgresPostgres (indicesFrom)

namespace CsvPostgres

inductive RowVariant where
  | normal
  | duplicateKey
  | malformedFieldCount
  | malformedAmount
  | quotedField
  | escapedQuoteField
  deriving DecidableEq

/-- The rows with special cases; the first case of a row is the one it gets. -/
def edgeCasePlan (rows : UInt64) : List (UInt64 × RowVariant) :=
  (if 5 ≤ rows then [(rows / 5, .quotedField)] else []) ++
    (if 4 ≤ rows then [(rows / 4, .escapedQuoteField)] else [])

structure GenerateManifest where
  rows : UInt64
  seed : UInt64
  fileSizeBytes : UInt64
  sha256 : String
  generatedAt : DateTime

def doubleQuotes (field : String) : String :=
  String.ofList (field.toList.flatMap fun char =>
    if char = '"' then [char, char] else [char])

def quoteCsvField (field : String) : String :=
  if ',' ∈ field.toList ∨ '"' ∈ field.toList ∨ '\n' ∈ field.toList then
    "\"" ++ doubleQuotes field ++ "\""
  else field

def firstNames : List String :=
  ["Alice", "Bob", "Carol", "Dave", "Erin", "Frank", "Grace", "Heidi", "Ivan",
    "Judy"]

def lastNames : List String :=
  ["Smith", "Johnson", "Lee", "Brown", "Garcia", "Miller", "Davis", "Wilson",
    "Moore", "Taylor"]

structure BaseRow where
  customerId : UInt64
  name : String
  email : String
  amount : Int64
  createdAt : DateTime

theorem base_inside : minUtc ≤ 1767225600 ∧ 1767225600 ≤ maxUtc := by
  unfold minUtc maxUtc
  omega

/-- The first second of the year 2026. -/
def base : DateTime :=
  { seconds := 1767225600
    nanoseconds := 0
    early := base_inside.1
    late := base_inside.2
    bounded := Nat.succ_pos _ }

def addSeconds (instant : DateTime) (seconds : Int) : Option DateTime :=
  if inside : minUtc ≤ instant.seconds + seconds ∧
      instant.seconds + seconds ≤ maxUtc then
    some { instant with
      seconds := instant.seconds + seconds
      early := inside.1
      late := inside.2 }
  else none

def emailOf (customerId : UInt64) : String :=
  "customer" ++ Text.decimal customerId.toNat ++ "@example.test"

def baseRow {ρ : Type} [Rng ρ] (fuel : Nat) (rng : ρ)
    (rowIndex idOffset : UInt64) : Option (BaseRow × ρ) := do
  let customerId := idOffset + rowIndex
  let first ← firstNames[rowIndex.toNat % firstNames.length]?
  let (index, rng) ← uniformRange fuel rng 0 (UInt64.ofNat lastNames.length)
  let last ← lastNames[index.toNat]?
  let (amount, rng) ← uniformRange fuel rng 100 1000000
  let createdAt ← addSeconds base rowIndex.toInt64.toInt
  return ({
    customerId
    name := first ++ " " ++ last
    email := emailOf customerId
    amount := amount.toInt64
    createdAt }, rng)

/-- The line that one write puts into the file. -/
def writeRow (platform : Platform) (variant : RowVariant) (row : BaseRow) :
    String :=
  let customerId := Text.decimal row.customerId.toNat
  let amount := Text.signed row.amount.toInt
  let createdAt := platform.toRfc3339 row.createdAt
  match variant with
  | .normal | .duplicateKey =>
      customerId ++ "," ++ quoteCsvField row.name ++ "," ++ row.email ++ "," ++
        amount ++ "," ++ createdAt ++ "\n"
  | .malformedFieldCount =>
      customerId ++ "," ++ quoteCsvField row.name ++ "," ++ row.email ++ "," ++
        amount ++ "\n"
  | .malformedAmount =>
      customerId ++ "," ++ quoteCsvField row.name ++ "," ++ row.email ++
        ",NOT_A_NUMBER," ++ createdAt ++ "\n"
  | .quotedField =>
      let quotedName := "Smith, " ++ row.name
      customerId ++ ",\"" ++ quotedName ++ "\"," ++ row.email ++ "," ++
        amount ++ "," ++ createdAt ++ "\n"
  | .escapedQuoteField =>
      let quotedName := row.name ++ " \"\"the great\"\""
      customerId ++ ",\"" ++ quotedName ++ "\"," ++ row.email ++ "," ++
        amount ++ "," ++ createdAt ++ "\n"

/-- What a row is written as; an injection comes before a special case. -/
def variantAt (rows rowIndex : UInt64) (malformedAt badAmountAt :
    Option UInt64) : RowVariant :=
  let variant := ((edgeCasePlan rows).find? fun edge =>
    edge.1 = rowIndex).elim .normal Prod.snd
  if malformedAt = some rowIndex then .malformedFieldCount
  else if badAmountAt = some rowIndex then .malformedAmount
  else variant

section Generating

variable {ρ : Type} [SeedableRng ρ]

/-- The lines of the rows with the given indices, drawn one after another. -/
def generateLoop (fuel : Nat) (platform : Platform) (rows : UInt64)
    (duplicateAt malformedAt badAmountAt : Option UInt64)
    (idOffset : UInt64) :
    List UInt64 → ρ → Option BaseRow → Option (List String)
  | [], _, _ => some []
  | rowIndex :: rest, rng, lastRow => do
      let (row, rng) ← baseRow fuel rng rowIndex idOffset
      let variant := variantAt rows rowIndex malformedAt badAmountAt
      let line := writeRow platform variant row
      let repeated :=
        if duplicateAt = some rowIndex then
          lastRow.toList.map (writeRow platform .duplicateKey)
        else []
      let lines ← generateLoop fuel platform rows duplicateAt malformedAt
        badAmountAt idOffset rest rng (some row)
      return line :: (repeated ++ lines)

/-- What is recorded about a file. -/
def manifestOf (platform : Platform) (now : DateTime) (rows seed : UInt64)
    (content : Bytes) : GenerateManifest :=
  { rows
    seed
    fileSizeBytes := UInt64.ofNat content.length
    sha256 := hexDigest (platform.sha256 content).toList
    generatedAt := now }

/-- The content of the file, and its manifest. -/
def generate (fuel : Nat) (platform : Platform) (now : DateTime)
    (rows seed : UInt64) (duplicateAt malformedAt badAmountAt : Option UInt64)
    (idOffset : UInt64) : Option (Bytes × GenerateManifest) := do
  let lines ← generateLoop fuel platform rows duplicateAt malformedAt
    badAmountAt idOffset (indicesFrom 1 rows.toNat)
    (SeedableRng.seedFromU64 seed : ρ) none
  let content := utf8 (String.join lines)
  return (content, manifestOf platform now rows seed content)

end Generating

end CsvPostgres

end Generator
