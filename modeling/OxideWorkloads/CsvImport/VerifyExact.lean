/-
The verifier of the CSV import accepts exactly the right table.

The row encoding does not escape its separators.  Four zero characters of each
row separate its fields, and the texts of the table have none; so streams of
the same length and the same number of rows leave none for the fields of the
file, and rows without them are told apart one after another.
-/

import OxideWorkloads.CsvImport.Verify
import OxideWorkloads.Foundation.Separated

namespace CsvImport

open Foundation
open Foundation.Checks
open Foundation.LineLog (Bytes)
open Foundation.Json (utf8)
open Projection (hexDigest hexDigest_injective utf8_injective)

variable {platform : Platform}

/-! ### The content of a file -/

/-- The row of a record with five fields that all parse. -/
def recordRow (platform : Platform) :
    Except String (List String) → Option ImportedRow
  | .ok [customerId, name, email, amount, createdAt] => do
      let customerId ← parseI64 customerId
      let amount ← parseI64 amount
      let createdAt ← platform.parseDateTime createdAt
      return { customerId, name, email, amount, createdAt }
  | _ => none

/-- The rows of a file, if every record has one. -/
def fileRows (platform : Platform) (content : Bytes) :
    Option (List ImportedRow) :=
  (platform.records content).mapM (recordRow platform)

def Ascending (rows : List ImportedRow) : Prop :=
  rows.Pairwise
    (fun earlier later => earlier.customerId.val < later.customerId.val)

def encodeRow (platform : Platform) (row : ImportedRow) : String :=
  canonicalRow row.customerId row.name row.email row.amount
    (platform.toRfc3339 row.createdAt)

/-- The bytes that the digest of some rows is about. -/
def canonicalStream (platform : Platform) (rows : List ImportedRow) : Bytes :=
  rows.flatMap (fun row => utf8 (encodeRow platform row))

/-! ### The encoding -/

def ImportedRow.ZeroFree (row : ImportedRow) : Prop :=
  zeroChar ∉ row.name.toList ∧ zeroChar ∉ row.email.toList

theorem signed_zeroFree (value : Int) :
    zeroChar ∉ (Text.signed value).toList := by
  intro member
  rcases Text.signed_chars member with minus | digit
  · exact absurd minus (by decide)
  · exact absurd digit (by decide)

theorem encodeRow_toList (row : ImportedRow) :
    (encodeRow platform row).toList =
      (Text.signed row.customerId.val).toList ++ zeroChar ::
        (row.name.toList ++ zeroChar :: (row.email.toList ++ zeroChar ::
          ((Text.signed row.amount.val).toList ++ zeroChar ::
            ((platform.toRfc3339 row.createdAt).toList ++ [endOfRow])))) := by
  unfold encodeRow canonicalRow
  rw [String.toList_ofList]

/-- Besides the four separators, there are the zeros inside the texts. -/
theorem count_encodeRow (renders : platform.Renders) (row : ImportedRow) :
    (encodeRow platform row).toList.count zeroChar =
      4 + row.name.toList.count zeroChar +
        row.email.toList.count zeroChar := by
  have id := List.count_eq_zero.mpr (signed_zeroFree row.customerId.val)
  have amount := List.count_eq_zero.mpr (signed_zeroFree row.amount.val)
  have instant := List.count_eq_zero.mpr (renders.zeroFree row.createdAt)
  have ending : [endOfRow].count zeroChar = 0 := by decide
  rw [encodeRow_toList]
  simp only [List.count_append, List.count_cons_self, id, amount, instant,
    ending]
  omega

/-- Rows without zeros inside: the encoding of the first one is read back,
whatever follows. -/
theorem encodeRow_append_injective (renders : platform.Renders)
    {left right : ImportedRow} (leftFree : left.ZeroFree)
    (rightFree : right.ZeroFree) {leftRest rightRest : List Char}
    (same : (encodeRow platform left).toList ++ leftRest =
      (encodeRow platform right).toList ++ rightRest) :
    left = right ∧ leftRest = rightRest := by
  simp only [encodeRow_toList, List.append_assoc, List.cons_append] at same
  obtain ⟨ids, same⟩ := Separated.append_injective (signed_zeroFree _)
    (signed_zeroFree _) same
  obtain ⟨names, same⟩ := Separated.append_injective leftFree.1 rightFree.1
    same
  obtain ⟨emails, same⟩ := Separated.append_injective leftFree.2 rightFree.2
    same
  obtain ⟨amounts, same⟩ := Separated.append_injective (signed_zeroFree _)
    (signed_zeroFree _) same
  obtain ⟨instants, rests⟩ := Separated.append_injective
    (renders.endFree left.createdAt) (renders.endFree right.createdAt) same
  constructor
  · have sameId := Subtype.ext
      (Text.signed_injective (String.toList_inj.mp ids))
    have sameAmount := Subtype.ext
      (Text.signed_injective (String.toList_inj.mp amounts))
    have sameInstant := renders.injective _ _ (String.toList_inj.mp instants)
    cases left
    cases right
    simp only [ImportedRow.mk.injEq]
    exact ⟨sameId, String.toList_inj.mp names, String.toList_inj.mp emails,
      sameAmount, sameInstant⟩
  · exact rests

def encodeRows (platform : Platform) (rows : List ImportedRow) : List Char :=
  rows.flatMap (fun row => (encodeRow platform row).toList)

theorem encodeRows_cons (row : ImportedRow) (rows : List ImportedRow) :
    encodeRows platform (row :: rows) =
      (encodeRow platform row).toList ++ encodeRows platform rows :=
  rfl

theorem utf8_encodeRows (rows : List ImportedRow) :
    utf8 (String.ofList (encodeRows platform rows)) =
      canonicalStream platform rows := by
  unfold utf8 encodeRows canonicalStream
  rw [String.toList_ofList, List.flatMap_assoc]
  rfl

/-- The zeros inside the texts of some rows. -/
def zerosInside (rows : List ImportedRow) : Nat :=
  (rows.flatMap (fun row => row.name.toList ++ row.email.toList)).count
    zeroChar

theorem count_encodeRows (renders : platform.Renders)
    (rows : List ImportedRow) :
    (encodeRows platform rows).count zeroChar =
      4 * rows.length + zerosInside rows := by
  induction rows with
  | nil => rfl
  | cons row rest ih =>
      rw [encodeRows_cons, List.count_append, count_encodeRow renders, ih,
        List.length_cons, zerosInside, zerosInside, List.flatMap_cons,
        List.count_append, List.count_append]
      omega

theorem zerosInside_eq_zero {rows : List ImportedRow} :
    zerosInside rows = 0 ↔ ∀ row ∈ rows, row.ZeroFree := by
  unfold zerosInside
  rw [List.count_eq_zero, List.mem_flatMap]
  constructor
  · intro none row listed
    constructor
    · intro member
      exact none ⟨row, listed, List.mem_append_left _ member⟩
    · intro member
      exact none ⟨row, listed, List.mem_append_right _ member⟩
  · intro free found
    obtain ⟨row, listed, member⟩ := found
    rcases List.mem_append.mp member with inName | inEmail
    · exact (free row listed).1 inName
    · exact (free row listed).2 inEmail

theorem encodeRows_injective_of_free (renders : platform.Renders)
    {left right : List ImportedRow} (leftFree : ∀ row ∈ left, row.ZeroFree)
    (rightFree : ∀ row ∈ right, row.ZeroFree)
    (lengths : left.length = right.length)
    (same : encodeRows platform left = encodeRows platform right) :
    left = right := by
  induction left generalizing right with
  | nil => exact (List.length_eq_zero_iff.mp lengths.symm).symm
  | cons row rest ih =>
      cases right with
      | nil => cases lengths
      | cons other others =>
          rw [encodeRows_cons, encodeRows_cons] at same
          obtain ⟨heads, tails⟩ := encodeRow_append_injective renders
            (leftFree row List.mem_cons_self)
            (rightFree other List.mem_cons_self) same
          have rests := ih
            (fun row member => leftFree row (List.mem_cons_of_mem _ member))
            (fun row member => rightFree row (List.mem_cons_of_mem _ member))
            (Nat.succ.inj lengths) tails
          rw [heads, rests]

/-- Rows with zeros inside, or without: as many of them have the same stream
as rows without only if they are the same rows. -/
theorem encodeRows_injective (renders : platform.Renders)
    {rows stored : List ImportedRow} (free : ∀ row ∈ stored, row.ZeroFree)
    (lengths : rows.length = stored.length)
    (same : canonicalStream platform rows = canonicalStream platform stored) :
    rows = stored := by
  rw [← utf8_encodeRows, ← utf8_encodeRows] at same
  have chars := String.ofList_injective (utf8_injective same)
  have zeros := count_encodeRows renders rows
  rw [chars, count_encodeRows renders, zerosInside_eq_zero.mpr free,
    lengths] at zeros
  have rowsFree : zerosInside rows = 0 := by omega
  exact encodeRows_injective_of_free renders
    (zerosInside_eq_zero.mp rowsFree) free lengths chars

/-! ### The loops -/

/-- The ids of some rows ascend strictly from the last one read. -/
def AscendsFrom (last : Option Bigint) (rows : List ImportedRow) : Prop :=
  (∀ id ∈ last, ∀ row ∈ rows, id.val < row.customerId.val) ∧ Ascending rows

theorem ascendsFrom_cons {last : Option Bigint} {row : ImportedRow}
    {rest : List ImportedRow} :
    AscendsFrom last (row :: rest) ↔
      (∀ id ∈ last, id.val < row.customerId.val) ∧
        AscendsFrom (some row.customerId) rest := by
  unfold AscendsFrom Ascending
  rw [List.pairwise_cons]
  constructor
  · intro ascends
    obtain ⟨above, first, others⟩ := ascends
    constructor
    · intro id found
      exact above id found row List.mem_cons_self
    · constructor
      · intro id found other member
        rw [← Option.mem_some.mp found]
        exact first other member
      · exact others
  · intro ascends
    obtain ⟨before, behind, others⟩ := ascends
    have first := behind row.customerId rfl
    constructor
    · intro id found other member
      rcases List.mem_cons.mp member with same | later
      · rw [same]
        exact before id found
      · exact lt_trans (before id found) (first other later)
    · exact ⟨first, others⟩

theorem checkAscending_eq_ok {rows : Nat} {customerId : Bigint}
    {last : Option Bigint} {value : Unit} :
    checkAscending rows customerId last = .ok value ↔
      ∀ id ∈ last, id.val < customerId.val := by
  cases last with
  | none =>
      constructor
      · intro _ id found
        cases found
      · intro _
        rfl
  | some id =>
      unfold checkAscending
      rw [ensure_eq_ok, not_le]
      constructor
      · intro above other found
        rw [← Option.mem_some.mp found]
        exact above
      · intro above
        exact above id rfl

/-- A record that is read has a row above the last id, and is hashed as it. -/
theorem digestRecord_eq_ok {state after : SourceState}
    {record : Except String (List String)} :
    digestRecord platform state record = .ok after ↔
      ∃ row, recordRow platform record = some row ∧
        (∀ id ∈ state.lastCustomerId, id.val < row.customerId.val) ∧
        after =
          { hasher := state.hasher ++ utf8 (encodeRow platform row)
            rows := state.rows + 1
            lastCustomerId := some row.customerId } := by
  unfold digestRecord recordRow
  split
  · simp
  · rename_i customerId name email amount createdAt
    unfold digestFields
    simp only [bind_eq_ok, require_eq_ok, checkAscending_eq_ok, pure_eq_ok,
      exists_const, Option.bind_eq_bind, Option.bind_eq_some_iff,
      Option.pure_def, Option.some.injEq]
    constructor
    · intro reads
      obtain ⟨id, idRead, above, amountValue, amountRead, instant, instantRead,
        same⟩ := reads
      refine ⟨_, ⟨id, idRead, amountValue, amountRead, instant, instantRead,
        rfl⟩, above, same.symm⟩
    · intro reads
      obtain ⟨row, ⟨id, idRead, amountValue, amountRead, instant, instantRead,
        same⟩, above, after⟩ := reads
      rw [← same] at above after
      exact ⟨id, idRead, above, amountValue, amountRead, instant, instantRead,
        after.symm⟩
  · rename_i fields other
    constructor
    · intro impossible
      cases impossible
    · intro reads
      obtain ⟨row, impossible, _⟩ := reads
      split at impossible
      · rename_i same
        exact absurd (Except.ok.inj same) (other _ _ _ _ _)
      · cases impossible

theorem digestRecords_eq_ok {records : List (Except String (List String))}
    {state : SourceState} {hasher : Bytes} {count : Nat} :
    (∃ last, records.foldlM (digestRecord platform) state =
        .ok { hasher, rows := count, lastCustomerId := last }) ↔
      ∃ rows, records.mapM (recordRow platform) = some rows ∧
        AscendsFrom state.lastCustomerId rows ∧
        hasher = state.hasher ++ canonicalStream platform rows ∧
        count = state.rows + rows.length := by
  induction records generalizing state with
  | nil =>
      constructor
      · intro reads
        obtain ⟨last, same⟩ := reads
        rw [List.foldlM_nil, pure_eq_ok] at same
        refine ⟨[], rfl, ⟨?_, List.Pairwise.nil⟩, ?_, ?_⟩
        · intro _ _ _ member
          cases member
        · rw [same, canonicalStream, List.flatMap_nil, List.append_nil]
        · rw [same]
          rfl
      · intro reads
        obtain ⟨rows, none, _, bytes, total⟩ := reads
        rw [List.mapM_nil, Option.pure_def, Option.some.injEq] at none
        rw [← none] at bytes total
        refine ⟨state.lastCustomerId, ?_⟩
        rw [List.foldlM_nil, pure_eq_ok, bytes, total, canonicalStream,
          List.flatMap_nil, List.append_nil]
        rfl
  | cons record rest ih =>
      have stream : ∀ row rows, canonicalStream platform (row :: rows) =
          utf8 (encodeRow platform row) ++ canonicalStream platform rows := by
        intro row rows
        rfl
      constructor
      · intro reads
        obtain ⟨last, same⟩ := reads
        rw [List.foldlM_cons, bind_eq_ok] at same
        obtain ⟨middle, first, others⟩ := same
        obtain ⟨row, found, above, state'⟩ := digestRecord_eq_ok.mp first
        obtain ⟨rows, tail, ascends, bytes, total⟩ := ih.mp ⟨last, others⟩
        rw [state'] at ascends bytes total
        refine ⟨row :: rows, ?_, ascendsFrom_cons.mpr ⟨above, ascends⟩, ?_, ?_⟩
        · rw [List.mapM_cons, found, tail]
          rfl
        · rw [bytes, stream, List.append_assoc]
        · rw [total, List.length_cons]
          change state.rows + 1 + rows.length = state.rows + (rows.length + 1)
          omega
      · intro reads
        obtain ⟨all, found, ascends, bytes, total⟩ := reads
        simp only [List.mapM_cons, Option.bind_eq_bind,
          Option.bind_eq_some_iff, Option.pure_def, Option.some.injEq] at found
        obtain ⟨row, one, rows, tail, same⟩ := found
        rw [← same] at ascends bytes total
        obtain ⟨above, behind⟩ := ascendsFrom_cons.mp ascends
        have first := (@digestRecord_eq_ok platform state _ record).mpr
          ⟨row, one, above, rfl⟩
        have bytesBehind : hasher = state.hasher ++
            utf8 (encodeRow platform row) ++ canonicalStream platform rows := by
          rw [bytes, stream, List.append_assoc]
        have totalBehind : count = state.rows + 1 + rows.length := by
          rw [total, List.length_cons]
          omega
        let middle : SourceState :=
          { hasher := state.hasher ++ utf8 (encodeRow platform row)
            rows := state.rows + 1
            lastCustomerId := some row.customerId }
        obtain ⟨last, others⟩ := (@ih middle).mpr
          ⟨rows, tail, behind, bytesBehind, totalBehind⟩
        refine ⟨last, ?_⟩
        rw [List.foldlM_cons, first]
        exact others

theorem sourceDigest_eq_ok {content : Bytes} {count : Nat} {digest : String} :
    sourceDigest platform content = .ok (count, digest) ↔
      ∃ rows, fileRows platform content = some rows ∧ Ascending rows ∧
        count = rows.length ∧
        digest = hexDigest
          (platform.sha256 (canonicalStream platform rows)).toList := by
  unfold sourceDigest fileRows
  simp only [bind_eq_ok, pure_eq_ok]
  have loop := @digestRecords_eq_ok platform (platform.records content)
    { hasher := [], rows := 0, lastCustomerId := none }
  constructor
  · intro reads
    obtain ⟨state, runs, same⟩ := reads
    obtain ⟨rows, found, ascends, bytes, total⟩ :=
      loop.mp ⟨state.lastCustomerId, runs⟩
    obtain ⟨counts, digests⟩ := Prod.mk.inj same
    refine ⟨rows, found, ascends.2, ?_, ?_⟩
    · rw [← counts, total]
      exact Nat.zero_add _
    · rw [← digests, bytes]
      rfl
  · intro reads
    obtain ⟨rows, found, ascends, counts, digests⟩ := reads
    have fromStart : AscendsFrom none rows := by
      constructor
      · intro id impossible
        cases impossible
      · exact ascends
    obtain ⟨last, runs⟩ := loop.mpr ⟨rows, found, fromStart, rfl, rfl⟩
    refine ⟨_, runs, ?_⟩
    rw [counts, digests]
    exact Prod.ext (Nat.zero_add _) rfl

theorem digestStored_eq_ok {rows : List StoredRow} {state after : Bytes × Nat} :
    rows.foldlM (digestStored platform) state = .ok after ↔
      ∃ decoded, rows.mapM StoredRow.decode = .ok decoded ∧
        after = (state.1 ++ canonicalStream platform decoded,
          state.2 + decoded.length) := by
  induction rows generalizing state with
  | nil =>
      simp only [List.foldlM_nil, List.mapM_nil, pure_eq_ok, exists_eq_left']
      rw [canonicalStream, List.flatMap_nil, List.append_nil, eq_comm]
      rfl
  | cons row rest ih =>
      simp only [List.foldlM_cons, List.mapM_cons, bind_eq_ok, pure_eq_ok,
        digestStored, ih]
      constructor
      · intro reads
        obtain ⟨_, ⟨first, decodes, same⟩, others, tail, last⟩ := reads
        rw [← same] at last
        refine ⟨first :: others, ⟨first, decodes, others, tail, rfl⟩, ?_⟩
        rw [last, List.length_cons]
        refine Prod.ext ?_ ?_
        · exact List.append_assoc _ _ _
        · change state.2 + 1 + others.length = state.2 + (others.length + 1)
          omega
      · intro reads
        obtain ⟨_, ⟨first, decodes, others, tail, same⟩, last⟩ := reads
        rw [← same] at last
        refine ⟨_, ⟨first, decodes, rfl⟩, others, tail, ?_⟩
        rw [last, List.length_cons]
        refine Prod.ext ?_ ?_
        · exact (List.append_assoc _ _ _).symm
        · change state.2 + (others.length + 1) = state.2 + 1 + others.length
          omega

theorem dbDigest_eq_ok {table : ImportedTable} {count : Nat}
    {digest : String} :
    dbDigest platform table = .ok (count, digest) ↔
      ∃ rows, table.decoded = .ok rows ∧ count = rows.length ∧
        digest = hexDigest
          (platform.sha256 (canonicalStream platform rows)).toList := by
  unfold dbDigest ImportedTable.decoded
  simp only [bind_eq_ok, pure_eq_ok, digestStored_eq_ok, Prod.mk.injEq]
  constructor
  · intro reads
    obtain ⟨_, ⟨rows, decodes, same⟩, counts, digests⟩ := reads
    refine ⟨rows, decodes, ?_, ?_⟩
    · rw [← counts, same]
      exact Nat.zero_add _
    · rw [← digests, same]
      rfl
  · intro reads
    obtain ⟨rows, decodes, counts, digests⟩ := reads
    refine ⟨_, ⟨rows, decodes, rfl⟩, ?_, ?_⟩
    · rw [counts]
      exact Nat.zero_add _
    · rw [digests]
      rfl

/-! ### Verification -/

theorem decoded_zeroFree {table : ImportedTable} {rows : List ImportedRow}
    (decodes : table.decoded = .ok rows) : ∀ row ∈ rows, row.ZeroFree := by
  intro row member
  obtain ⟨stored, listed, decode⟩ :=
    exists_of_forall₂ (mapM_eq_ok.mp decodes) member
  unfold StoredRow.decode at decode
  rw [bind_eq_ok] at decode
  obtain ⟨instant, _, same⟩ := decode
  rw [pure_eq_ok] at same
  rw [← same]
  exact table.zeroFree stored listed

/-- The verifier compares numbers of rows and hashes of streams. -/
theorem verify_eq_ok {input : Except String Bytes} {table : ImportedTable}
    {value : Unit} :
    verify platform input table = .ok value ↔
      ∃ content rows stored, input = .ok content ∧
        fileRows platform content = some rows ∧ Ascending rows ∧
        table.decoded = .ok stored ∧ rows.length = stored.length ∧
        platform.sha256 (canonicalStream platform rows) =
          platform.sha256 (canonicalStream platform stored) := by
  unfold verify verifyReport
  simp only [bind_eq_ok, pure_eq_ok, ensure_eq_ok, exists_const, Prod.exists,
    sourceDigest_eq_ok, dbDigest_eq_ok]
  constructor
  · intro accepts
    obtain ⟨report, ⟨content, opened, sourceRows, sourceHash,
      ⟨rows, found, ascends, sourceCount, sourceSame⟩, dbRows, dbHash,
      ⟨stored, decodes, dbCount, dbSame⟩, same⟩, counts, digests⟩ := accepts
    rw [← same] at counts digests
    have sameCount := of_decide_eq_true counts
    have sameHash := of_decide_eq_true digests
    rw [sourceSame, dbSame] at sameHash
    refine ⟨content, rows, stored, opened, found, ascends, decodes, ?_, ?_⟩
    · rw [← sourceCount, ← dbCount]
      exact sameCount
    · exact Vector.toList_inj.mp (hexDigest_injective sameHash)
  · intro matches_
    obtain ⟨content, rows, stored, opened, found, ascends, decodes, counts,
      hashes⟩ := matches_
    refine ⟨_, ⟨content, opened, _, _, ⟨rows, found, ascends, rfl, rfl⟩, _, _,
      ⟨stored, decodes, rfl, rfl⟩, rfl⟩, ?_, ?_⟩
    · exact decide_eq_true counts
    · exact decide_eq_true (congrArg _ (congrArg Vector.toList hashes))

/-- A file with these rows, against a table. -/
theorem verify_of_rows (renders : platform.Renders) {content : Bytes}
    {rows : List ImportedRow} {table : ImportedTable}
    (found : fileRows platform content = some rows)
    (distinguished : ∀ stored, table.decoded = .ok stored →
      platform.sha256 (canonicalStream platform rows) =
        platform.sha256 (canonicalStream platform stored) →
      canonicalStream platform rows = canonicalStream platform stored) :
    verify platform (.ok content) table = .ok () ↔
      Ascending rows ∧ table.decoded = .ok rows := by
  rw [verify_eq_ok]
  constructor
  · intro accepts
    obtain ⟨_, others, stored, opened, otherFound, ascends, decodes, counts,
      hashes⟩ := accepts
    cases opened
    rw [found] at otherFound
    cases otherFound
    have same := encodeRows_injective renders (decoded_zeroFree decodes)
      counts (distinguished stored decodes hashes)
    rw [← same] at decodes
    exact ⟨ascends, decodes⟩
  · intro same
    exact ⟨content, rows, rows, rfl, found, same.1, same.2, rfl, rfl⟩

/-- The verifier accepts a file and a table just if the records of the file
are the rows of the table in the order of their ids. -/
theorem csvVerify_exact (renders : platform.Renders)
    (input : Except String Bytes) (table : ImportedTable)
    (distinguished : ∀ content rows stored, input = .ok content →
      fileRows platform content = some rows → table.decoded = .ok stored →
      platform.sha256 (canonicalStream platform rows) =
        platform.sha256 (canonicalStream platform stored) →
      canonicalStream platform rows = canonicalStream platform stored) :
    verify platform input table = .ok () ↔
      ∃ content rows, input = .ok content ∧
        fileRows platform content = some rows ∧ Ascending rows ∧
        table.decoded = .ok rows := by
  constructor
  · intro accepts
    obtain ⟨content, rows, _, opened, found, _⟩ := verify_eq_ok.mp accepts
    rw [opened] at accepts
    have same := (verify_of_rows renders found (fun stored =>
      distinguished content rows stored opened found)).mp accepts
    exact ⟨content, rows, opened, found, same⟩
  · intro same
    obtain ⟨content, rows, opened, found, agree⟩ := same
    rw [opened]
    exact (verify_of_rows renders found (fun stored =>
      distinguished content rows stored opened found)).mpr agree

/-! ### One file -/

/-- The rendering of one second; other seconds are told apart by numbers. -/
def secondText (seconds : Int) : String :=
  if seconds = 1704164645 then "2024-01-02T03:04:05"
  else Text.signed seconds

def fractionText (nanoseconds : Nat) : String :=
  if nanoseconds = 0 then "" else "." ++ Text.zeroPadded 9 nanoseconds

def sampleRfc3339 (instant : DateTime) : String :=
  secondText instant.seconds ++
    (fractionText instant.nanoseconds ++ "+00:00")

def inSecond (char : Char) : Bool :=
  char.isDigit || char == '-' || char == 'T' || char == ':'

theorem secondText_chars (seconds : Int) :
    ∀ char ∈ (secondText seconds).toList, inSecond char = true := by
  intro char member
  unfold secondText at member
  split at member
  · exact List.all_eq_true.mp (by decide) char member
  · unfold inSecond
    rcases Text.signed_chars member with minus | digit
    · rw [minus]
      rfl
    · rw [digit]
      rfl

theorem fractionText_chars (nanoseconds : Nat) :
    ∀ char ∈ (fractionText nanoseconds).toList,
      char = '.' ∨ char.isDigit = true := by
  intro char member
  unfold fractionText at member
  split at member
  · cases member
  · rw [String.toList_append] at member
    rcases List.mem_append.mp member with point | digit
    · exact Or.inl (List.mem_singleton.mp point)
    · exact Or.inr (List.all_eq_true.mp
        (Text.zeroPadded_isAsciiDigits 9 nanoseconds) char digit)

theorem sampleRfc3339_free {char : Char} (offSecond : inSecond char = false)
    (offPoint : char ≠ '.') (offOffset : char ∉ "+00:00".toList)
    (instant : DateTime) : char ∉ (sampleRfc3339 instant).toList := by
  intro member
  unfold sampleRfc3339 at member
  rw [String.toList_append, String.toList_append] at member
  rcases List.mem_append.mp member with second | rest
  · rw [secondText_chars _ char second] at offSecond
    cases offSecond
  · rcases List.mem_append.mp rest with fraction | offset
    · rcases fractionText_chars _ char fraction with point | digit
      · exact offPoint point
      · unfold inSecond at offSecond
        rw [digit] at offSecond
        cases offSecond
    · exact offOffset offset

theorem secondText_injective {left right : Int}
    (same : secondText left = secondText right) : left = right := by
  have notSigned : ∀ value : Int,
      "2024-01-02T03:04:05" ≠ Text.signed value := by
    intro value equal
    have letter : 'T' ∈ (Text.signed value).toList := by
      rw [← equal]
      decide
    rcases Text.signed_chars letter with minus | digit
    · exact absurd minus (by decide)
    · exact absurd digit (by decide)
  unfold secondText at same
  split at same
  · split at same
    · omega
    · exact absurd same (notSigned _)
  · split at same
    · exact absurd same.symm (notSigned _)
    · exact Text.signed_injective same

theorem sampleRfc3339_injective {left right : DateTime}
    (same : sampleRfc3339 left = sampleRfc3339 right) : left = right := by
  have noPoint : ∀ seconds, '.' ∉ (secondText seconds).toList := by
    intro seconds member
    exact absurd (secondText_chars _ _ member) (by decide)
  have chars := congrArg String.toList same
  unfold sampleRfc3339 at chars
  simp only [String.toList_append, ← List.append_assoc,
    List.append_cancel_right_eq] at chars
  have parts : secondText left.seconds = secondText right.seconds ∧
      left.nanoseconds = right.nanoseconds := by
    unfold fractionText at chars
    by_cases leftWhole : left.nanoseconds = 0
    · by_cases rightWhole : right.nanoseconds = 0
      · rw [if_pos leftWhole, if_pos rightWhole, List.append_cancel_right_eq]
          at chars
        exact ⟨String.toList_inj.mp chars, leftWhole.trans rightWhole.symm⟩
      · rw [if_pos leftWhole, if_neg rightWhole, String.toList_append] at chars
        have point : '.' ∈ (secondText left.seconds).toList ++ "".toList := by
          rw [chars]
          simp
        simp at point
        exact absurd point (noPoint _)
    · by_cases rightWhole : right.nanoseconds = 0
      · rw [if_neg leftWhole, if_pos rightWhole, String.toList_append] at chars
        have point : '.' ∈ (secondText right.seconds).toList ++ "".toList := by
          rw [← chars]
          simp
        simp at point
        exact absurd point (noPoint _)
      · rw [if_neg leftWhole, if_neg rightWhole, String.toList_append,
          String.toList_append] at chars
        obtain ⟨seconds, digits⟩ := Separated.append_injective (noPoint _)
          (noPoint _) chars
        exact ⟨String.toList_inj.mp seconds,
          Text.zeroPadded_injective (String.toList_inj.mp digits)⟩
  have seconds := secondText_injective parts.1
  cases left
  cases right
  simp only [DateTime.mk.injEq]
  exact ⟨seconds, parts.2⟩

/-- A file whose fields need no quotes. -/
def fileOf (fields : List (List String)) : Bytes :=
  utf8 (String.join (fields.map (fun record =>
    String.intercalate "," record ++ "\n")))

def sampleInstant (nanoseconds : Nat) (bounded : nanoseconds < 2000000000) :
    DateTime :=
  { seconds := 1704164645
    nanoseconds
    early := by decide
    late := by decide
    bounded }

/-- Half a microsecond later. -/
def halfInstant : DateTime := sampleInstant 500 (by decide)

/-- A platform that knows one file, two timestamps and one second. -/
def samplePlatform (fields : List (List String)) : Platform :=
  { records := fun content =>
      if content = fileOf fields then fields.map Except.ok else []
    parseDateTime := fun text =>
      if text = "2024-01-02T03:04:05Z" then
        some (sampleInstant 0 (by decide))
      else if text = "2024-01-02T03:04:05.0000005Z" then
        some halfInstant
      else none
    toRfc3339 := sampleRfc3339
    sha256 := Sha256.digest }

theorem samplePlatform_renders (fields : List (List String)) :
    (samplePlatform fields).Renders := by
  constructor
  · intro left right same
    exact sampleRfc3339_injective same
  · exact sampleRfc3339_free (by decide) (by decide) (by decide)
  · exact sampleRfc3339_free (by decide) (by decide) (by decide)

theorem samplePlatform_records (fields : List (List String)) :
    (samplePlatform fields).records (fileOf fields) = fields.map Except.ok :=
  if_pos rfl

def sampleRow : StoredRow :=
  { customerId := ⟨7, by decide⟩
    name := "Zoÿ"
    email := "zoy@example.com"
    amount := ⟨-5, by decide⟩
    createdAt := 1704164645000000 }

theorem sampleRow_zeroFree : sampleRow.ZeroFree := by
  constructor
  · decide
  · decide

def sampleTable : ImportedTable :=
  { rows := [sampleRow]
    ascending := List.pairwise_singleton _ _
    zeroFree := by
      intro row member
      rw [List.mem_singleton.mp member]
      exact sampleRow_zeroFree }

def sampleFields : List (List String) :=
  [["7", "Zoÿ", "zoy@example.com", "-5", "2024-01-02T03:04:05Z"]]

def sampleImported : ImportedRow :=
  { customerId := ⟨7, by decide⟩
    name := "Zoÿ"
    email := "zoy@example.com"
    amount := ⟨-5, by decide⟩
    createdAt := sampleInstant 0 (by decide) }

def secondRow : StoredRow :=
  { customerId := ⟨9, by decide⟩
    name := "Bo"
    email := "bo@example.com"
    amount := ⟨250, by decide⟩
    createdAt := 1704164645000000 }

def severalTable : ImportedTable :=
  { rows := [sampleRow, secondRow]
    ascending := by decide
    zeroFree := by
      intro row member
      rcases List.mem_cons.mp member with first | later
      · rw [first]
        exact sampleRow_zeroFree
      · rw [List.mem_singleton.mp later]
        constructor
        · decide
        · decide }

def severalFields : List (List String) :=
  sampleFields ++ [["9", "Bo", "bo@example.com", "250", "2024-01-02T03:04:05Z"]]

def secondImported : ImportedRow :=
  { customerId := ⟨9, by decide⟩
    name := "Bo"
    email := "bo@example.com"
    amount := ⟨250, by decide⟩
    createdAt := sampleInstant 0 (by decide) }

theorem several_found :
    fileRows (samplePlatform severalFields) (fileOf severalFields) =
      some [sampleImported, secondImported] := by
  unfold fileRows
  rw [samplePlatform_records]
  rfl

theorem several_ascends : Ascending [sampleImported, secondImported] := by
  unfold Ascending
  decide

/-- Two rows, one with a name that has the character which ends a row; and a
table in which the second row is missing. -/
theorem csvVerify_exact_several :
    verify (samplePlatform severalFields) (.ok (fileOf severalFields))
        severalTable = .ok () ∧
      verify (samplePlatform severalFields) (.ok (fileOf severalFields))
        sampleTable ≠ .ok () := by
  have renders := samplePlatform_renders severalFields
  constructor
  · apply (csvVerify_exact renders _ severalTable ?_).mpr
    · exact ⟨_, _, rfl, several_found, several_ascends, rfl⟩
    · intro content rows stored opened others decodes _
      cases opened
      rw [several_found] at others
      cases others
      cases decodes
      rfl
  · intro accepted
    obtain ⟨_, _, opened, found, _, decodes⟩ :=
      (csvVerify_exact renders _ sampleTable (by
        intro content rows stored opened others decodes same
        cases opened
        rw [several_found] at others
        cases others
        cases decodes
        exact absurd same (by decide +kernel))).mp accepted
    cases opened
    rw [several_found] at found
    cases found
    cases decodes

end CsvImport
