/-
The source rows of the workload, their canonical encoding and the digest that
identifies the content of the whole source table.
-/

import OxideWorkloads.Foundation.JsonLog
import OxideWorkloads.Foundation.Separated
import OxideWorkloads.Foundation.Sha256

namespace Projection

open Foundation
open Foundation.LineLog (Bytes)
open Foundation.Json (utf8)
open Foundation.JsonGrammar (decodeUtf8_utf8)

/-- What comes from outside: the SHA-256 of the digest library, and the upper
case of a text by the Unicode tables. -/
structure Platform where
  sha256 : Bytes → Vector UInt8 32
  toUppercase : String → String

/-- The platform as it acts on ASCII texts. -/
def asciiPlatform : Platform :=
  { sha256 := Sha256.digest
    toUppercase := String.toUpper }

structure SourceRow where
  customerId : Int64
  fullName : String
  isActive : Bool
  balanceCents : Int64
  deriving DecidableEq

/-! ### Encoding -/

/-- The lowest `width` bytes of a number, lowest first. -/
def littleEndian : Nat → Nat → Bytes
  | 0, _ => []
  | width + 1, value =>
      UInt8.ofNat (value % 256) :: littleEndian width (value / 256)

def toLeBytes (value : Int64) : Bytes := littleEndian 8 value.toUInt64.toNat

def boolByte (value : Bool) : UInt8 := if value then 1 else 0

def encodeRow (row : SourceRow) : Bytes :=
  toLeBytes row.customerId ++ 0 :: (utf8 row.fullName ++
    0 :: boolByte row.isActive :: (toLeBytes row.balanceCents ++ [0xFF]))

/-- The fields of one row, as the fingerprint covers them. -/
def encodeFields (row : SourceRow) : Bytes :=
  toLeBytes row.customerId ++ 0 :: (utf8 row.fullName ++
    0 :: boolByte row.isActive :: toLeBytes row.balanceCents)

def hexDigits : List Char := "0123456789abcdef".toList

def hexChar (value : Nat) : Char := hexDigits.getD value '0'

def hexDigest (bytes : Bytes) : String :=
  String.ofList (bytes.flatMap (fun byte =>
    [hexChar (byte.toNat / 16), hexChar (byte.toNat % 16)]))

def encodeSource (rows : List SourceRow) : Bytes := rows.flatMap encodeRow

/-- The digest of the source rows in the order of their ids. -/
def compute (platform : Platform) (rows : List SourceRow) : String :=
  hexDigest (platform.sha256 (encodeSource rows)).toList

/-! ### Different contents have different encodings -/

theorem littleEndian_length (width value : Nat) :
    (littleEndian width value).length = width := by
  induction width generalizing value with
  | zero => rfl
  | succ width ih => simp [littleEndian, ih]

theorem littleEndian_injective {width left right : Nat}
    (leftFits : left < Nat.pow 256 width)
    (rightFits : right < Nat.pow 256 width)
    (same : littleEndian width left = littleEndian width right) :
    left = right := by
  induction width generalizing left right with
  | zero =>
      have leftZero := Nat.lt_one_iff.mp leftFits
      have rightZero := Nat.lt_one_iff.mp rightFits
      rw [leftZero, rightZero]
  | succ width ih =>
      simp only [littleEndian, List.cons.injEq] at same
      have grows : Nat.pow 256 (width + 1) = Nat.pow 256 width * 256 := rfl
      rw [grows] at leftFits rightFits
      have high := ih (Nat.div_lt_of_lt_mul (by omega))
        (Nat.div_lt_of_lt_mul (by omega)) same.2
      have low := congrArg UInt8.toNat same.1
      simp only [UInt8.toNat_ofNat'] at low
      omega

theorem toLeBytes_injective {left right : Int64}
    (same : toLeBytes left = toLeBytes right) : left = right := by
  have leftFits := left.toUInt64.toNat_lt
  have rightFits := right.toUInt64.toNat_lt
  have bound : Nat.pow 256 8 = 18446744073709551616 := rfl
  have number := littleEndian_injective (by omega) (by omega) same
  have words := UInt64.toNat_inj.mp number
  rw [← left.toInt64_toUInt64, words, right.toInt64_toUInt64]

theorem boolByte_injective {left right : Bool}
    (same : boolByte left = boolByte right) : left = right := by
  revert same
  cases left <;> cases right <;> decide

theorem utf8_injective {left right : String}
    (same : utf8 left = utf8 right) : left = right := by
  have decoded := decodeUtf8_utf8 left
  rw [same, decodeUtf8_utf8] at decoded
  exact (Option.some.inj decoded).symm

/-- A name as the database can hold it. -/
def ZeroFree (row : SourceRow) : Prop := 0 ∉ utf8 row.fullName

theorem encodeRow_append_injective {left right : SourceRow}
    {leftRest rightRest : Bytes} (leftFree : ZeroFree left)
    (rightFree : ZeroFree right)
    (same : encodeRow left ++ leftRest = encodeRow right ++ rightRest) :
    left = right ∧ leftRest = rightRest := by
  have lengths : ∀ first second : Int64,
      (toLeBytes first).length = (toLeBytes second).length := by
    intro first second
    simp only [toLeBytes, littleEndian_length]
  simp only [encodeRow, List.append_assoc, List.cons_append] at same
  obtain ⟨ids, afterId⟩ := List.append_inj same (lengths _ _)
  obtain ⟨names, afterName⟩ := Separated.append_injective leftFree rightFree
    (List.cons.inj afterId).2
  obtain ⟨flags, afterFlag⟩ := List.cons.inj afterName
  obtain ⟨balances, rests⟩ := List.append_inj afterFlag (lengths _ _)
  refine ⟨?_, by simpa using rests⟩
  cases left
  cases right
  simp only [SourceRow.mk.injEq]
  exact ⟨toLeBytes_injective ids, utf8_injective names,
    boolByte_injective flags, toLeBytes_injective balances⟩

theorem encodeSource_injective {left right : List SourceRow}
    (leftFree : ∀ row ∈ left, ZeroFree row)
    (rightFree : ∀ row ∈ right, ZeroFree row)
    (same : encodeSource left = encodeSource right) : left = right := by
  have nonempty : ∀ row : SourceRow, encodeRow row ≠ [] := by
    intro row
    simp [encodeRow]
  exact Separated.flatMap_injective nonempty
    (fun _ _ _ _ => encodeRow_append_injective) leftFree rightFree same

theorem hexDigest_injective {left right : Bytes}
    (same : hexDigest left = hexDigest right) : left = right := by
  have digits : ∀ high < 16, ∀ low < 16, hexChar high = hexChar low →
      high = low := by decide
  have chars := String.ofList_injective same
  induction left generalizing right with
  | nil =>
      cases right with
      | nil => rfl
      | cons byte rest => simp at chars
  | cons byte rest ih =>
      cases right with
      | nil => simp at chars
      | cons other others =>
          simp only [List.flatMap_cons, List.cons_append, List.nil_append,
            List.cons.injEq] at chars
          obtain ⟨high, low, tails⟩ := chars
          have byteFits := byte.toNat_lt
          have otherFits := other.toNat_lt
          have highs := digits _ (by omega) _ (by omega) high
          have lows := digits _ (by omega) _ (by omega) low
          have bytes : byte = other := by
            apply UInt8.toNat_inj.mp
            omega
          rw [bytes, ih (congrArg String.ofList tails) tails]

/-- Contents are told apart by their digests as far as SHA-256 tells their
encodings apart. -/
theorem compute_injective {platform : Platform} {left right : List SourceRow}
    (leftFree : ∀ row ∈ left, ZeroFree row)
    (rightFree : ∀ row ∈ right, ZeroFree row)
    (distinguished : platform.sha256 (encodeSource left) =
      platform.sha256 (encodeSource right) →
        encodeSource left = encodeSource right)
    (same : compute platform left = compute platform right) :
    left = right := by
  have digests := Vector.toList_inj.mp (hexDigest_injective same)
  exact encodeSource_injective leftFree rightFree (distinguished digests)

end Projection
