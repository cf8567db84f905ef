/-
The digest of a closure tells accepted lists of entries apart.

A path may hold the newline that closes an entry.  The zero bytes around the
mode say where the path ends, and neither the mode nor the object id holds a
newline.
-/

import OxideWorkloads.Ci.ClosureExact
import OxideWorkloads.Foundation.JsonGrammar
import OxideWorkloads.Foundation.Sha256

namespace Closure

open Foundation
open Foundation.SortedKeys
open Projection (hexDigest hexDigest_injective utf8_injective)

/-! ### Bytes that end a field -/

/-- A control byte is only in the encoding of its own character. -/
theorem control_not_mem_utf8 {byte : UInt8} (control : byte.toNat < 0x20)
    {text : String} (absent : ∀ char ∈ text.toList,
      char.toNat ≠ byte.toNat) : byte ∉ Json.utf8 text := by
  intro member
  obtain ⟨char, inText, inBytes⟩ := List.mem_flatMap.mp member
  by_cases ascii : char.toNat < 0x80
  · rw [JsonGrammar.utf8EncodeChar_ascii ascii, List.mem_singleton] at inBytes
    apply absent char inText
    rw [inBytes, UInt8.toNat_ofNat']
    omega
  · have literal := List.all_eq_true.mp
      (JsonGrammar.utf8EncodeChar_literal (by omega) (by omega) (by omega)) byte
      inBytes
    simp only [JsonGrammar.isLiteralByte, Bool.and_eq_true, Bool.not_eq_true',
      decide_eq_false_iff_not, UInt8.lt_iff_toNat_lt] at literal
    exact literal.2 control

theorem zero_not_mem_utf8 {text : String}
    (free : Char.ofNat 0 ∉ text.toList) : 0 ∉ Json.utf8 text := by
  apply control_not_mem_utf8 (by decide)
  intro char member zero
  have same : char = Char.ofNat 0 := by
    rw [← Char.ofNat_toNat char, zero]
    rfl
  rw [same] at member
  exact free member

theorem isLowerHex_range {char : Char} (hex : isLowerHex char = true) :
    0x20 ≤ char.toNat := by
  unfold isLowerHex at hex
  rw [Bool.or_eq_true, Bool.and_eq_true, decide_eq_true_eq,
    decide_eq_true_eq] at hex
  rcases hex with digit | letter
  · have range := Text.isDigit_range digit
    omega
  · have low := UInt32.le_iff_toNat_le.mp letter.1
    exact Nat.le_trans (by decide) low

/-- Digits and letters are no control characters. -/
theorem control_not_mem_of_isLowerHex {byte : UInt8}
    (control : byte.toNat < 0x20) {text : String}
    (hex : ∀ char ∈ text.toList, isLowerHex char = true) :
    byte ∉ Json.utf8 text := by
  apply control_not_mem_utf8 control
  intro char member same
  have range := isLowerHex_range (hex char member)
  omega

theorem regular_hex {mode : String} (regular : mode ∈ regularGitModes) :
    ∀ char ∈ mode.toList, isLowerHex char = true := by
  have modes : regularGitModes.all
      (fun mode => mode.toList.all isLowerHex) = true := by
    decide +kernel
  exact List.all_eq_true.mp (List.all_eq_true.mp modes mode regular)

/-- The fields of an entry that can be read back from its payload. -/
structure Readable (entry : Entry) : Prop where
  pathFree : Char.ofNat 0 ∉ entry.path.toList
  modeHex : ∀ char ∈ entry.mode.toList, isLowerHex char = true
  oidHex : ∀ char ∈ entry.gitBlobOid.toList, isLowerHex char = true

/-- The path ends at the first zero byte, the mode at the second, and the
object id at the newline behind it. -/
theorem payload_append_injective {left right : Entry}
    {leftRest rightRest : List UInt8} (leftReadable : Readable left)
    (rightReadable : Readable right)
    (same : left.payload ++ leftRest = right.payload ++ rightRest) :
    left = right ∧ leftRest = rightRest := by
  unfold Entry.payload at same
  simp only [List.append_assoc, List.cons_append, List.nil_append] at same
  obtain ⟨paths, afterPath⟩ := Separated.append_injective
    (zero_not_mem_utf8 leftReadable.pathFree)
    (zero_not_mem_utf8 rightReadable.pathFree) same
  obtain ⟨modes, afterMode⟩ := Separated.append_injective
    (control_not_mem_of_isLowerHex (by decide) leftReadable.modeHex)
    (control_not_mem_of_isLowerHex (by decide) rightReadable.modeHex) afterPath
  obtain ⟨oids, rests⟩ := Separated.append_injective
    (control_not_mem_of_isLowerHex (by decide) leftReadable.oidHex)
    (control_not_mem_of_isLowerHex (by decide) rightReadable.oidHex) afterMode
  constructor
  · cases left
    cases right
    rw [Entry.mk.injEq]
    exact ⟨utf8_injective paths, utf8_injective modes, utf8_injective oids⟩
  · exact rests

theorem payload_ne_nil (entry : Entry) : entry.payload ≠ [] :=
  List.append_ne_nil_of_right_ne_nil _ (List.cons_ne_nil _ _)

theorem payload_injective {left right : List Entry}
    (leftReadable : ∀ entry ∈ left, Readable entry)
    (rightReadable : ∀ entry ∈ right, Readable entry)
    (same : left.flatMap Entry.payload = right.flatMap Entry.payload) :
    left = right :=
  Separated.flatMap_injective payload_ne_nil
    (fun _ _ _ _ => payload_append_injective) leftReadable rightReadable same

/-! ### Order -/

theorem key_injective (left right : Entry)
    (same : left.key = right.key) : left = right := by
  have parts := Prod.mk.inj (toLex.injective same)
  have rest := Prod.mk.inj (toLex.injective parts.2)
  cases left
  cases right
  rw [Entry.mk.injEq]
  exact ⟨parts.1, rest.1, rest.2⟩

theorem key_lt_of_path_lt {left right : Entry}
    (less : left.path < right.path) : left.key < right.key :=
  Prod.Lex.toLex_lt_toLex.mpr (Or.inl less)

theorem Recorded.readable {includes : List String} {entries : List Entry}
    (recorded : Recorded includes entries)
    (free : ∀ entry ∈ entries, Char.ofNat 0 ∉ entry.path.toList) :
    ∀ entry ∈ entries, Readable entry := by
  intro entry member
  have acceptable := recorded.acceptable entry member
  have hex := acceptable.hex
  unfold isHex40 at hex
  rw [Bool.and_eq_true] at hex
  exact
    { pathFree := free entry member
      modeHex := regular_hex acceptable.regular
      oidHex := List.all_eq_true.mp hex.2 }

theorem Recorded.sorted {includes : List String} {entries : List Entry}
    (recorded : Recorded includes entries) :
    sortBy Entry.key entries = entries :=
  sortBy_eq_self (recorded.increasing.imp key_lt_of_path_lt)

/-- What is hashed of a list of entries. -/
def payloadOf (entries : List Entry) : List UInt8 :=
  (sortBy Entry.key entries).flatMap Entry.payload

/-- Accepted lists with one digest are the same, and the order of a list does
not change its digest. -/
theorem closureDigest_identifies
    (sha256 : List UInt8 → Vector UInt8 32) :
    (∀ repr leftValue rightValue leftIncludes rightIncludes left right,
      parseClosureEntries repr leftValue leftIncludes = .ok left →
      parseClosureEntries repr rightValue rightIncludes = .ok right →
      (∀ entry ∈ left, Char.ofNat 0 ∉ entry.path.toList) →
      (∀ entry ∈ right, Char.ofNat 0 ∉ entry.path.toList) →
      (sha256 (payloadOf left) = sha256 (payloadOf right) →
        payloadOf left = payloadOf right) →
      closureDigest sha256 left = closureDigest sha256 right →
      left = right) ∧
    ∀ entries others : List Entry, entries.Perm others →
      closureDigest sha256 entries = closureDigest sha256 others := by
  constructor
  · intro repr leftValue rightValue leftIncludes rightIncludes left right
      leftParses rightParses leftFree rightFree collisionFree same
    have leftRecorded := parseClosureEntries_recorded leftParses
    have rightRecorded := parseClosureEntries_recorded rightParses
    have digests := Vector.toList_inj.mp (hexDigest_injective same)
    have payloads := collisionFree digests
    unfold payloadOf at payloads
    rw [leftRecorded.sorted, rightRecorded.sorted] at payloads
    exact payload_injective (leftRecorded.readable leftFree)
      (rightRecorded.readable rightFree) payloads
  · intro entries others perm
    unfold closureDigest
    rw [sortBy_eq_of_perm key_injective perm]

def libraryFiles : Json :=
  .array [(libraryEntry "src/lib.rs" 40).toJson,
    (libraryEntry "src/main.rs" 40).toJson]

theorem closureDigest_identifies_library :
    closureDigest Sha256.digest
        [libraryEntry "src/lib.rs" 40, libraryEntry "src/\nb.rs" 40] =
      closureDigest Sha256.digest
        [libraryEntry "src/\nb.rs" 40, libraryEntry "src/lib.rs" 40] ∧
    ∀ left right : List Entry,
      parseClosureEntries id libraryFiles ["src"] = .ok left →
      parseClosureEntries id libraryFiles ["src", "src/lib.rs"] = .ok right →
        left = right :=
  have parses : parseClosureEntries id libraryFiles ["src"] =
      .ok [libraryEntry "src/lib.rs" 40, libraryEntry "src/main.rs" 40] := by
    decide +kernel
  have parsesToo : parseClosureEntries id libraryFiles ["src", "src/lib.rs"] =
      .ok [libraryEntry "src/lib.rs" 40, libraryEntry "src/main.rs" 40] := by
    decide +kernel
  have free : ∀ entry ∈ [libraryEntry "src/lib.rs" 40,
      libraryEntry "src/main.rs" 40], Char.ofNat 0 ∉ entry.path.toList := by
    decide
  ⟨(closureDigest_identifies Sha256.digest).2 _ _ (List.Perm.swap _ _ []),
    fun left right first second => by
      rw [parses] at first
      rw [parsesToo] at second
      cases first
      cases second
      exact (closureDigest_identifies Sha256.digest).1 id _ _ _ _ _ _ parses
        parsesToo free free (fun _ => rfl) rfl⟩

end Closure
