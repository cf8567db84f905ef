/-
The byte streams that identify the source content.

The workload, the raw sqlx engine and the raw JDBC engine each feed a hasher
of their own while they read the table; the engines feed it field by field.
-/

import OxideWorkloads.Projection.RawSqlx

namespace Projection

open Foundation
open Foundation.LineLog (Bytes)
open Foundation.Json (utf8)

/-! ### The engines -/

namespace RawSqlx

/-- The hasher after one more row. -/
def hashRow (hasher : Bytes) (row : SourceRow) : Bytes :=
  let hasher := hasher ++ toLeBytes row.customerId
  let hasher := hasher ++ [0]
  let hasher := hasher ++ utf8 row.fullName
  let hasher := hasher ++ [0]
  let hasher := hasher ++ [boolByte row.isActive]
  let hasher := hasher ++ toLeBytes row.balanceCents
  hasher ++ [0xFF]

def sourceStream (rows : List SourceRow) : Bytes := rows.foldl hashRow []

def sourceDigest (platform : Platform) (rows : List SourceRow) : String :=
  hexDigest (platform.sha256 (sourceStream rows)).toList

end RawSqlx

namespace Java

/-- The UTF-8 bytes of a string that is held as UTF-16 units. -/
def getBytes (text : List UInt16) : Bytes :=
  utf8 (String.ofList (Utf16.decode text))

theorem getBytes_encode (text : String) :
    getBytes (Utf16.encode text) = utf8 text := by
  rw [getBytes, Utf16.decode_encode, String.ofList_toList]

end Java

namespace RawJdbc

def digestRow (digest : Bytes) (row : SourceRow) : Bytes :=
  let digest := digest ++ Java.littleEndian row.customerId
  let digest := digest ++ [0]
  let digest := digest ++ Java.getBytes (Utf16.encode row.fullName)
  let digest := digest ++ [0]
  let digest := digest ++ [if row.isActive then 1 else 0]
  let digest := digest ++ Java.littleEndian row.balanceCents
  digest ++ [0xFF]

def sourceStream (rows : List SourceRow) : Bytes := rows.foldl digestRow []

def sourceDigest (platform : Platform) (rows : List SourceRow) : String :=
  hexDigest (platform.sha256 (sourceStream rows)).toList

end RawJdbc

/-! ### One stream -/

/-- A hasher that appends an encoding of every row has hashed the encodings
one after another. -/
theorem foldl_encodeRow {update : Bytes → SourceRow → Bytes}
    (appends : ∀ hasher row, update hasher row = hasher ++ encodeRow row)
    (hasher : Bytes) (rows : List SourceRow) :
    rows.foldl update hasher = hasher ++ encodeSource rows := by
  induction rows generalizing hasher with
  | nil => exact (List.append_nil hasher).symm
  | cons row rest ih =>
      rw [List.foldl_cons, ih, appends, encodeSource, encodeSource,
        List.flatMap_cons, List.append_assoc]

theorem RawSqlx.hashRow_eq (hasher : Bytes) (row : SourceRow) :
    RawSqlx.hashRow hasher row = hasher ++ encodeRow row := by
  unfold RawSqlx.hashRow encodeRow
  simp only [List.append_assoc, List.cons_append, List.nil_append]

theorem RawJdbc.digestRow_eq (digest : Bytes) (row : SourceRow) :
    RawJdbc.digestRow digest row = digest ++ encodeRow row := by
  unfold RawJdbc.digestRow encodeRow boolByte
  simp only [Java.littleEndian_eq, Java.getBytes_encode, List.append_assoc,
    List.cons_append, List.nil_append]

theorem RawSqlx.sourceStream_eq (rows : List SourceRow) :
    RawSqlx.sourceStream rows = encodeSource rows :=
  foldl_encodeRow RawSqlx.hashRow_eq [] rows

theorem RawJdbc.sourceStream_eq (rows : List SourceRow) :
    RawJdbc.sourceStream rows = encodeSource rows :=
  foldl_encodeRow RawJdbc.digestRow_eq [] rows

/-- Equal streams come from equal contents, equal identities from equal tables
unless SHA-256 collides on their two streams, and all engines hash the
stream of the workload. -/
theorem sourceIdentity_exact :
    (∀ left right : List SourceRow, (∀ row ∈ left, ZeroFree row) →
      (∀ row ∈ right, ZeroFree row) →
        left.flatMap encodeRow = right.flatMap encodeRow → left = right) ∧
    (∀ (platform : Platform) (left right : SourceTable),
      (platform.sha256 (encodeSource left.rows) =
          platform.sha256 (encodeSource right.rows) →
        encodeSource left.rows = encodeSource right.rows) →
      compute platform left.rows = compute platform right.rows →
        left.rows = right.rows) ∧
    ∀ rows : List SourceRow,
      RawSqlx.sourceStream rows = rows.flatMap encodeRow ∧
        RawJdbc.sourceStream rows = rows.flatMap encodeRow ∧
        ∀ platform : Platform,
          RawSqlx.sourceDigest platform rows = compute platform rows ∧
            RawJdbc.sourceDigest platform rows = compute platform rows := by
  constructor
  · intro left right leftFree rightFree same
    exact encodeSource_injective leftFree rightFree same
  constructor
  · intro platform left right distinguished same
    exact compute_injective left.zeroFree right.zeroFree distinguished same
  · intro rows
    constructor
    · exact RawSqlx.sourceStream_eq rows
    constructor
    · exact RawJdbc.sourceStream_eq rows
    · intro platform
      unfold RawSqlx.sourceDigest RawJdbc.sourceDigest compute
      rw [RawSqlx.sourceStream_eq, RawJdbc.sourceStream_eq]
      exact ⟨rfl, rfl⟩

/-- A row whose numbers hold the separators. -/
def separatorRow (balanceCents : Int64) : SourceRow :=
  { customerId := 0xFF00
    fullName := "Zoë"
    isActive := true
    balanceCents }

theorem sourceIdentity_exact_separators :
    [separatorRow 0xFF00].flatMap encodeRow ≠
        [separatorRow 0xFF].flatMap encodeRow ∧
      (compute asciiPlatform [separatorRow 0] =
          compute asciiPlatform [separatorRow 0] →
        [separatorRow 0] = [separatorRow 0]) := by
  have zeroFree : ∀ balanceCents, ZeroFree (separatorRow balanceCents) := by
    intro balanceCents
    change 0 ∉ utf8 "Zoë"
    decide
  have free : ∀ balanceCents, ∀ row ∈ [separatorRow balanceCents],
      ZeroFree row := by
    intro balanceCents row member
    rw [List.mem_singleton.mp member]
    exact zeroFree balanceCents
  let table : SourceTable :=
    { rows := [separatorRow 0]
      ascending := List.pairwise_singleton _ _
      zeroFree := free 0 }
  obtain ⟨injective, identity, _⟩ := sourceIdentity_exact
  constructor
  · intro same
    have rows := injective _ _ (free 0xFF00) (free 0xFF) same
    exact absurd rows (by decide)
  · exact identity asciiPlatform table table (fun _ => rfl)

end Projection
