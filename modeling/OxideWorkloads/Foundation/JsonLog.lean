/-
Logs of JSON objects, one a line.

The compact texts of objects meet the assumptions of an unprotected line log.
They are valid UTF-8 and not blank, so that a reader that decodes each line
first sees them unchanged.
-/

import OxideWorkloads.Foundation.JsonFragments
import OxideWorkloads.Foundation.LineLog

namespace Foundation

namespace JsonGrammar

open Json

/-! ### The framing of compact objects -/

theorem stripReturn_brace (before : List UInt8) :
    LineLog.stripReturn (before ++ [0x7D]) = before ++ [0x7D] := by
  unfold LineLog.stripReturn
  rw [if_neg]
  simp

/-- Objects on one line each. -/
def objectFraming : LineLog.Framing where
  record := fun text => ObjectText text ∧ text.all isLineByte = true
  finished := fun text => accepts text = true
  stuck := Stuck
  record_finished := fun isRecord => isRecord.1.whole
  record_line := by
    intro text isRecord byte member
    have lineByte := List.all_eq_true.mp isRecord.2 byte member
    simpa [isLineByte, LineLog.newline] using lineByte
  record_end := by
    intro text isRecord
    obtain ⟨inner, rfl⟩ := isRecord.1.closes
    exact stripReturn_brace inner
  record_ne_nil := by
    intro text isRecord
    obtain ⟨letter, body, rfl, _⟩ := isRecord.1.opens
    exact List.cons_ne_nil _ _
  stuck_end := by
    intro remains text isRecord
    obtain ⟨inner, rfl⟩ := isRecord.1.closes
    rw [← List.append_assoc]
    exact stripReturn_brace _
  stuck_ne_nil := Stuck.ne_nil
  stuck_not_finished := by
    intro text stuck finished
    rw [stuck.not_accepted] at finished
    cases finished
  stuck_take := fun isRecord _ positive strict =>
    isRecord.1.stuck_take positive strict
  stuck_append := fun stuck isRecord count =>
    isRecord.1.stuck_append stuck count
  stuck_finished := fun finished isRecord _ positive =>
    isRecord.1.stuck_accepted finished positive

/-! ### UTF-8 -/

/-- The text that bytes encode, if they are valid UTF-8. -/
def decodeUtf8 (bytes : List UInt8) : Option String :=
  bytes.toByteArray.utf8Decode?.map (fun chars => String.ofList chars.toList)

theorem decodeUtf8_utf8 (text : String) :
    decodeUtf8 (utf8 text) = some text := by
  have decoded : (utf8 text).toByteArray.utf8Decode? =
      some text.toList.toArray := List.utf8Decode?_utf8Encode
  simp [decodeUtf8, decoded]

theorem utf8_append (first second : String) :
    utf8 (first ++ second) = utf8 first ++ utf8 second := by
  simp [utf8]

theorem toNat_ofNat_ascii : ∀ code < 0x80,
    (Char.ofNat code).toNat = code := by
  decide

theorem utf8_of_ascii (bytes : List UInt8)
    (ascii : ∀ byte ∈ bytes, byte.toNat < 0x80) :
    ∃ text, bytes = utf8 text := by
  refine ⟨String.ofList (bytes.map (fun byte => Char.ofNat byte.toNat)), ?_⟩
  simp only [utf8, String.toList_ofList]
  induction bytes with
  | nil => rfl
  | cons byte rest ih =>
      have small := ascii byte List.mem_cons_self
      have code := toNat_ofNat_ascii byte.toNat small
      have encoded : String.utf8EncodeChar (Char.ofNat byte.toNat) =
          [byte] := by
        rw [utf8EncodeChar_ascii (by omega), code, UInt8.ofNat_toNat]
      rw [List.map_cons, List.flatMap_cons, encoded,
        ← ih (fun other member => ascii other (List.mem_cons_of_mem _ member))]
      rfl

theorem utf8_of_small {bytes : List UInt8}
    (small : bytes.all (· < 0x80) = true) : ∃ text, bytes = utf8 text := by
  apply utf8_of_ascii
  intro byte member
  have below := List.all_eq_true.mp small byte member
  simpa [UInt8.lt_iff_toNat_lt] using below

theorem utf8_escapeChar (char : Char) :
    ∃ text, escapeChar char = utf8 text := by
  have digit : ∀ value < 16, hexDigit value < 0x80 := by decide
  unfold escapeChar
  simp only
  split_ifs
  · exact utf8_of_small (by decide)
  · exact utf8_of_small (by decide)
  · exact utf8_of_small (by decide)
  · exact utf8_of_small (by decide)
  · exact utf8_of_small (by decide)
  · exact utf8_of_small (by decide)
  · exact utf8_of_small (by decide)
  · have high := digit (char.toNat / 16) (by omega)
    have low := digit (char.toNat % 16) (by omega)
    apply utf8_of_small
    simp [high, low]
  · exact ⟨String.singleton char, by simp [utf8]⟩

theorem utf8_flatMap (chars : List Char) :
    ∃ text, chars.flatMap escapeChar = utf8 text := by
  induction chars with
  | nil => exact ⟨"", rfl⟩
  | cons char rest ih =>
      obtain ⟨first, firstText⟩ := utf8_escapeChar char
      obtain ⟨second, secondText⟩ := ih
      exact ⟨first ++ second, by
        rw [List.flatMap_cons, firstText, secondText, utf8_append]⟩

theorem ascii_of_isSpace {byte : UInt8} (space : isSpace byte = true) :
    byte.toNat < 0x80 := by
  simp only [isSpace, Bool.or_eq_true, decide_eq_true_eq] at space
  rcases space with ((rfl | rfl) | rfl) | rfl <;> decide

theorem ascii_of_isScalarByte {byte : UInt8}
    (scalar : isScalarByte byte = true) : byte.toNat < 0x80 := by
  simp only [isScalarByte, Bool.or_eq_true, Bool.and_eq_true,
    decide_eq_true_eq, UInt8.le_iff_toNat_le, ← UInt8.toNat_inj] at scalar
  simp at scalar
  omega

/-- Rendered documents are valid UTF-8 in every layout. -/
theorem utf8_tokens (layout : Layout) :
    TokenProperty layout (fun bytes => ∃ text, bytes = utf8 text) where
  nil := ⟨"", rfl⟩
  append := by
    rintro _ _ ⟨first, rfl⟩ ⟨second, rfl⟩
    exact ⟨first ++ second, (utf8_append first second).symm⟩
  gap := fun depth => utf8_of_ascii _ (fun byte member =>
    ascii_of_isSpace (List.all_eq_true.mp (layout.gapSpace depth) byte member))
  afterColon := utf8_of_ascii _ (fun byte member =>
    ascii_of_isSpace
      (List.all_eq_true.mp layout.afterColonSpace byte member))
  bracket := fun byte member => by
    simp only [List.mem_cons, List.not_mem_nil, or_false] at member
    rcases member with rfl | rfl | rfl | rfl | rfl | rfl <;>
      exact utf8_of_small (by decide)
  null := utf8_of_small (by decide)
  yes := utf8_of_small (by decide)
  no := utf8_of_small (by decide)
  integer := fun value => utf8_of_ascii _ (by
    intro byte member
    obtain ⟨char, inChars, rfl⟩ := List.mem_map.mp member
    exact ascii_of_isScalarByte (integerChars_scalar value char inChars))
  string := fun text => by
    obtain ⟨body, bodyText⟩ := utf8_flatMap text.toList
    have quote : utf8 "\"" = [0x22] := by decide
    refine ⟨"\"" ++ (body ++ "\""), ?_⟩
    rw [utf8_append, utf8_append, quote, renderString, bodyText]
    rfl

/-- A first byte in the ASCII range is the first character. -/
theorem head_of_utf8 {text : String} {byte : UInt8} {rest : List UInt8}
    (bytes : utf8 text = byte :: rest) (ascii : byte.toNat < 0x80) :
    ∃ char more, text.toList = char :: more ∧ char.toNat = byte.toNat := by
  unfold utf8 at bytes
  cases shape : text.toList with
  | nil =>
      rw [shape] at bytes
      cases bytes
  | cons char more =>
      refine ⟨char, more, rfl, ?_⟩
      rw [shape, List.flatMap_cons] at bytes
      by_cases small : char.toNat < 0x80
      · rw [utf8EncodeChar_ascii small] at bytes
        injection bytes with first _
        rw [← first, UInt8.toNat_ofNat']
        omega
      · exfalso
        have notAscii : ¬char.val.toNat ≤ 0x7F := by
          intro below
          exact small (Nat.lt_succ_of_le below)
        unfold String.utf8EncodeChar at bytes
        simp only [notAscii, if_false] at bytes
        split_ifs at bytes <;>
          · injection bytes with first _
            rw [← first, UInt8.toNat_ofNat'] at ascii
            omega

/-- A compact object is decoded to a text that is not blank. -/
theorem decodeUtf8_object {document : Json} {limit : Nat}
    (isPlain : document.plain limit = true)
    (object : ObjectText (compact document)) :
    ∃ text, decodeUtf8 (compact document) = some text ∧
      utf8 text = compact document ∧ Text.isBlank text = false := by
  obtain ⟨text, bytes⟩ :=
    (utf8_tokens compactLayout).render document limit isPlain 0
  change compact document = utf8 text at bytes
  obtain ⟨letter, body, shape, _⟩ := object.opens
  rw [shape] at bytes
  obtain ⟨char, more, chars, code⟩ := head_of_utf8 bytes.symm (by decide)
  refine ⟨text, ?_, ?_, ?_⟩
  · rw [shape, bytes]
    exact decodeUtf8_utf8 text
  · rw [shape, bytes]
  · have notWhite : Text.isWhitespace char = false := by
      simp [Text.isWhitespace, code]
    simp [Text.isBlank, chars, notWhite]

end JsonGrammar

end Foundation
