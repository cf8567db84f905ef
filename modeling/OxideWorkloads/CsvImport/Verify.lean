/-
The verifier of the CSV import: it streams the file and the table through one
row encoding and compares their row counts and digests.

The records of a file, the instants of the calendar library and SHA-256 come
from outside.  Counts are numbers; no file and no table has as many rows as a
64-bit count holds.
-/

import OxideWorkloads.Foundation.Checks
import OxideWorkloads.Foundation.DecimalOrder
import OxideWorkloads.Foundation.Word
import OxideWorkloads.Projection.SourceContent

namespace CsvImport

open Foundation
open Foundation.Checks
open Foundation.LineLog (Bytes)
open Foundation.Json (utf8)
open Projection (hexDigest)

/-! ### Instants -/

/-- The first second of the calendar, counted from the epoch. -/
def minUtc : Int := -8334601228800
/-- The last second of the calendar, counted from the epoch. -/
def maxUtc : Int := 8210266876799

/-- An instant.  The nanoseconds pass a whole second only in a leap second. -/
structure DateTime where
  seconds : Int
  nanoseconds : Nat
  early : minUtc ≤ seconds
  late : seconds ≤ maxUtc
  bounded : nanoseconds < 2000000000
  deriving DecidableEq

/-- The instant of a stored `timestamptz`, in microseconds from the epoch. -/
def DateTime.ofMicros? (micros : Int) : Option DateTime :=
  if inside : minUtc ≤ micros / 1000000 ∧ micros / 1000000 ≤ maxUtc then
    some {
      seconds := micros / 1000000
      nanoseconds := (micros % 1000000).toNat * 1000
      early := inside.1
      late := inside.2
      bounded := by omega }
  else none

/-- What comes from outside: the CSV parser, the calendar and the hash. -/
structure Platform where
  records : Bytes → List (Except String (List String))
  parseDateTime : String → Option DateTime
  toRfc3339 : DateTime → String
  sha256 : Bytes → Vector UInt8 32

def zeroChar : Char := Char.ofNat 0
def endOfRow : Char := Char.ofNat 0xFF

/-- The rendering tells instants apart and contains no separator. -/
structure Platform.Renders (platform : Platform) : Prop where
  injective : ∀ left right,
    platform.toRfc3339 left = platform.toRfc3339 right → left = right
  zeroFree : ∀ instant, zeroChar ∉ (platform.toRfc3339 instant).toList
  endFree : ∀ instant, endOfRow ∉ (platform.toRfc3339 instant).toList

/-! ### Rows -/

structure ImportedRow where
  customerId : Bigint
  name : String
  email : String
  amount : Bigint
  createdAt : DateTime
  deriving DecidableEq

/-- A row of the table; its timestamp counts microseconds. -/
structure StoredRow where
  customerId : Bigint
  name : String
  email : String
  amount : Bigint
  createdAt : Int
  deriving DecidableEq

def StoredRow.ZeroFree (row : StoredRow) : Prop :=
  zeroChar ∉ row.name.toList ∧ zeroChar ∉ row.email.toList

instance (row : StoredRow) : Decidable row.ZeroFree :=
  inferInstanceAs (Decidable (_ ∧ _))

/-- The table of imported customers: its primary key orders the rows, and a
text of the database has no zero byte. -/
structure ImportedTable where
  rows : List StoredRow
  ascending : rows.Pairwise
    (fun earlier later => earlier.customerId.val < later.customerId.val)
  zeroFree : ∀ row ∈ rows, row.ZeroFree

def StoredRow.decode (row : StoredRow) : Except String ImportedRow := do
  let createdAt ← require (DateTime.ofMicros? row.createdAt)
    "error occurred while decoding column 4"
  return {
    customerId := row.customerId
    name := row.name
    email := row.email
    amount := row.amount
    createdAt }

def ImportedTable.decoded (table : ImportedTable) :
    Except String (List ImportedRow) :=
  table.rows.mapM StoredRow.decode

/-- A 64-bit signed integer. -/
def parseI64 (text : String) : Option Bigint :=
  (Text.parseSigned text).bind Word.toBigint?

def canonicalRow (customerId : Bigint) (name email : String)
    (amount : Bigint) (createdAtRfc3339 : String) : String :=
  String.ofList ((Text.signed customerId.val).toList ++ zeroChar ::
    (name.toList ++ zeroChar :: (email.toList ++ zeroChar ::
      ((Text.signed amount.val).toList ++ zeroChar ::
        (createdAtRfc3339.toList ++ [endOfRow])))))

/-! ### The two sides -/

/-- How far the source file is read. -/
structure SourceState where
  hasher : Bytes
  rows : Nat
  lastCustomerId : Option Bigint

/-- The ids of the file ascend strictly. -/
def checkAscending (rows : Nat) (customerId : Bigint) :
    Option Bigint → Except String Unit
  | none => .ok ()
  | some last => ensure (¬ customerId.val ≤ last.val)
      s!"source row {rows + 1}: customer_id {customerId.val} is not strictly greater than the previous row's {last.val} -- verify requires the source CSV to be in strictly ascending customer_id order (see source_digest's doc comment); this file is out of scope for this verifier, not a content mismatch"

def digestFields (platform : Platform) (state : SourceState)
    (customerId name email amount createdAt : String) :
    Except String SourceState := do
  let id ← require (parseI64 customerId)
    s!"source row {state.rows + 1}: invalid customer_id '{customerId}'"
  checkAscending state.rows id state.lastCustomerId
  let amountValue ← require (parseI64 amount)
    s!"source row {state.rows + 1}: invalid amount '{amount}'"
  let instant ← require (platform.parseDateTime createdAt)
    s!"source row {state.rows + 1}: invalid created_at '{createdAt}'"
  let row := canonicalRow id name email amountValue
    (platform.toRfc3339 instant)
  return {
    hasher := state.hasher ++ utf8 row
    rows := state.rows + 1
    lastCustomerId := some id }

def digestRecord (platform : Platform) (state : SourceState)
    (record : Except String (List String)) : Except String SourceState :=
  match record with
  | .error error => .error error
  | .ok [customerId, name, email, amount, createdAt] =>
      digestFields platform state customerId name email amount createdAt
  | .ok fields => .error
      s!"source row {state.rows + 1} has {fields.length} fields, expected 5"

def sourceDigest (platform : Platform) (content : Bytes) :
    Except String (Nat × String) := do
  let state ← (platform.records content).foldlM (digestRecord platform)
    { hasher := [], rows := 0, lastCustomerId := none }
  return (state.rows, hexDigest (platform.sha256 state.hasher).toList)

/-- One row of the table, and the number of rows so far. -/
def digestStored (platform : Platform) (state : Bytes × Nat)
    (row : StoredRow) : Except String (Bytes × Nat) := do
  let row ← row.decode
  return (state.1 ++ utf8 (canonicalRow row.customerId row.name row.email
    row.amount (platform.toRfc3339 row.createdAt)), state.2 + 1)

def dbDigest (platform : Platform) (table : ImportedTable) :
    Except String (Nat × String) := do
  let state ← table.rows.foldlM (digestStored platform) ([], 0)
  return (state.2, hexDigest (platform.sha256 state.1).toList)

/-! ### Verification -/

structure VerifyReport where
  sourceRows : Nat
  dbRowCount : Nat
  rowCountsMatch : Bool
  sourceDigestSha256 : String
  dbDigestSha256 : String
  digestsMatch : Bool

/-- The report that is printed, whatever it says. -/
def verifyReport (platform : Platform) (input : Except String Bytes)
    (table : ImportedTable) : Except String VerifyReport := do
  let content ← input
  let (sourceRows, sourceDigestSha256) ← sourceDigest platform content
  let (dbRowCount, dbDigestSha256) ← dbDigest platform table
  return {
    sourceRows
    dbRowCount
    rowCountsMatch := sourceRows = dbRowCount
    sourceDigestSha256
    dbDigestSha256
    digestsMatch := sourceDigestSha256 = dbDigestSha256 }

/-- Verify what a path holds, or fail as opening it does. -/
def verify (platform : Platform) (input : Except String Bytes)
    (table : ImportedTable) : Except String Unit := do
  let report ← verifyReport platform input table
  ensure (report.rowCountsMatch = true)
    s!"verify failed: source has {report.sourceRows} rows, database has {report.dbRowCount}"
  ensure (report.digestsMatch = true)
    "verify failed: source and database content digests do not match"

end CsvImport
