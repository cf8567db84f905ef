/-
Readers of JSON documents.

A document reader is known by two laws: it accepts nothing outside the JSON
grammar, and it reads every rendered document back, whatever white space the
layout puts between the tokens.  A recursive reader that meets both is given
at the end.
-/

import OxideWorkloads.Foundation.JsonLog

namespace Foundation

namespace JsonGrammar

open Json

/-- A nesting depth that every reader accepts. -/
def nestingLimit : Nat := 127

/-- A reader of whole documents. -/
structure DocumentReader where
  read : List UInt8 → Except String Json
  sound : ∀ {bytes document}, read bytes = .ok document →
    accepts bytes = true
  complete : ∀ (layout : Layout) {document : Json},
    document.plain nestingLimit = true →
      ∀ {trailing : List UInt8}, trailing.all isSpace = true →
        read (render layout 0 document ++ trailing) = .ok document

namespace DocumentReader

theorem read_compact (reader : DocumentReader) {document : Json}
    (isPlain : document.plain nestingLimit = true) :
    reader.read (compact document) = .ok document := by
  have reads := reader.complete compactLayout isPlain
    (show ([] : List UInt8).all isSpace = true from rfl)
  rw [List.append_nil] at reads
  exact reads

theorem read_pretty (reader : DocumentReader) {document : Json}
    (isPlain : document.plain nestingLimit = true) :
    reader.read (pretty document ++ [0x0A]) = .ok document :=
  reader.complete prettyLayout isPlain (by decide)

end DocumentReader

/-! ### A recursive reader -/

namespace Recursive

def hexValue (byte : UInt8) : Nat :=
  if byte ≤ 0x39 then byte.toNat - 0x30
  else if byte ≤ 0x46 then byte.toNat - 0x41 + 10
  else byte.toNat - 0x61 + 10

/-- The byte that a one-character escape stands for. -/
def simpleEscape (byte : UInt8) : Option UInt8 :=
  if byte = 0x22 ∨ byte = 0x5C ∨ byte = 0x2F then some byte
  else if byte = 0x62 then some 0x08
  else if byte = 0x74 then some 0x09
  else if byte = 0x6E then some 0x0A
  else if byte = 0x66 then some 0x0C
  else if byte = 0x72 then some 0x0D
  else none

/-- Put bytes in front of what was read. -/
def prepend (bytes : List UInt8) (read : Option (List UInt8 × List UInt8)) :
    Option (List UInt8 × List UInt8) :=
  read.map (fun result => (bytes ++ result.1, result.2))

/-- The UTF-8 content of a string up to its closing quote, and the bytes after
it.  A `\u` escape of a surrogate is not read. -/
def readStringBody : List UInt8 → Option (List UInt8 × List UInt8)
  | [] => none
  | byte :: rest =>
      if byte = 0x22 then some ([], rest)
      else if byte = 0x5C then
        match rest with
        | [] => none
        | code :: more =>
            match simpleEscape code with
            | some plainByte => prepend [plainByte] (readStringBody more)
            | none =>
                if code = 0x75 then
                  match more with
                  | first :: second :: third :: fourth :: tail =>
                      prepend (String.utf8EncodeChar (Char.ofNat
                          (((hexValue first * 16 + hexValue second) * 16 +
                            hexValue third) * 16 + hexValue fourth)))
                        (readStringBody tail)
                  | _ => none
                else none
      else if byte < 0x20 then none
      else prepend [byte] (readStringBody rest)

def readString (bytes : List UInt8) : Option (String × List UInt8) :=
  match readStringBody bytes with
  | none => none
  | some (content, rest) =>
      (decodeUtf8 content).map (fun text => (text, rest))

/-- An integer between the smallest signed and the largest unsigned value. -/
def readInteger (chars : List Char) : Option Int :=
  match chars with
  | '-' :: digits =>
      (Text.readDigits digits).bind (fun value =>
        if i64Min ≤ -(value : Int) then some (-(value : Int)) else none)
  | digits =>
      (Text.readDigits digits).bind (fun value =>
        if value ≤ u64Max then some (value : Int) else none)

def readScalar (bytes : List UInt8) : Json :=
  if bytes = [0x6E, 0x75, 0x6C, 0x6C] then .null
  else if bytes = [0x74, 0x72, 0x75, 0x65] then .bool true
  else if bytes = [0x66, 0x61, 0x6C, 0x73, 0x65] then .bool false
  else
    let chars := bytes.map (fun byte => Char.ofNat byte.toNat)
    match readInteger chars with
    | some value => .integer value
    | none => .float (String.ofList chars)

def skipSpace (bytes : List UInt8) : List UInt8 :=
  bytes.dropWhile isSpace

mutual

def readValue : Nat → List UInt8 → Option (Json × List UInt8)
  | 0, _ => none
  | fuel + 1, bytes =>
      match skipSpace bytes with
      | [] => none
      | byte :: rest =>
          if byte = 0x22 then
            (readString rest).map (fun read => (.string read.1, read.2))
          else if byte = 0x5B then
            match skipSpace rest with
            | [] => none
            | head :: after =>
                if head = 0x5D then some (.array [], after)
                else (readItems fuel rest).map
                  (fun read => (.array read.1, read.2))
          else if byte = 0x7B then
            match skipSpace rest with
            | [] => none
            | head :: after =>
                if head = 0x7D then some (.object [], after)
                else (readMembers fuel rest).map
                  (fun read => (.object read.1, read.2))
          else if isScalarByte byte then
            some (readScalar ((byte :: rest).takeWhile isScalarByte),
              (byte :: rest).dropWhile isScalarByte)
          else none

/-- The items of an array from one item on, with the closing bracket. -/
def readItems : Nat → List UInt8 → Option (List Json × List UInt8)
  | 0, _ => none
  | fuel + 1, bytes =>
      match readValue fuel bytes with
      | none => none
      | some (item, rest) =>
          match skipSpace rest with
          | [] => none
          | byte :: after =>
              if byte = 0x5D then some ([item], after)
              else if byte = 0x2C then
                (readItems fuel after).map
                  (fun read => (item :: read.1, read.2))
              else none

/-- The members of an object from one key on, with the closing brace. -/
def readMembers : Nat → List UInt8 →
    Option (List (String × Json) × List UInt8)
  | 0, _ => none
  | fuel + 1, bytes =>
      match skipSpace bytes with
      | [] => none
      | quote :: keyed =>
          if quote = 0x22 then
            match readString keyed with
            | none => none
            | some (key, rest) =>
                match skipSpace rest with
                | [] => none
                | colon :: valued =>
                    if colon = 0x3A then
                      match readValue fuel valued with
                      | none => none
                      | some (value, behind) =>
                          match skipSpace behind with
                          | [] => none
                          | byte :: after =>
                              if byte = 0x7D then some ([(key, value)], after)
                              else if byte = 0x2C then
                                (readMembers fuel after).map (fun read =>
                                  ((key, value) :: read.1, read.2))
                              else none
                    else none
          else none

end

/-! ### Strings and numbers are read back -/

theorem readStringBody_quote (rest : List UInt8) :
    readStringBody (0x22 :: rest) = some ([], rest) := by
  rw [readStringBody.eq_def]
  rfl

theorem readStringBody_simple {code plainByte : UInt8}
    (simple : simpleEscape code = some plainByte) (rest : List UInt8) :
    readStringBody (0x5C :: code :: rest) =
      prepend [plainByte] (readStringBody rest) := by
  rw [readStringBody.eq_def]
  simp [simple]

theorem readStringBody_unicode (first second third fourth : UInt8)
    (rest : List UInt8) :
    readStringBody (0x5C :: 0x75 :: first :: second :: third :: fourth ::
        rest) =
      prepend (String.utf8EncodeChar (Char.ofNat
        (((hexValue first * 16 + hexValue second) * 16 + hexValue third) * 16 +
          hexValue fourth))) (readStringBody rest) := by
  rw [readStringBody.eq_def]
  have notSimple : simpleEscape 0x75 = none := by decide
  simp [notSimple]

theorem readStringBody_literal {byte : UInt8}
    (literal : isLiteralByte byte = true) (rest : List UInt8) :
    readStringBody (byte :: rest) = prepend [byte] (readStringBody rest) := by
  simp only [isLiteralByte, Bool.and_eq_true, decide_eq_true_eq,
    Bool.not_eq_true', decide_eq_false_iff_not, ne_eq] at literal
  rw [readStringBody.eq_def]
  simp [literal.1.1, literal.1.2, literal.2]

theorem prepend_append (first second : List UInt8)
    (read : Option (List UInt8 × List UInt8)) :
    prepend first (prepend second read) = prepend (first ++ second) read := by
  cases read <;> simp [prepend]

theorem readStringBody_escapeChar (char : Char) (rest : List UInt8) :
    readStringBody (escapeChar char ++ rest) =
      prepend (String.utf8EncodeChar char) (readStringBody rest) := by
  have ascii : char.toNat < 0x80 →
      String.utf8EncodeChar char = [UInt8.ofNat char.toNat] :=
    utf8EncodeChar_ascii
  unfold escapeChar
  simp only
  split_ifs with quote backslash back tab line feed return_ control
  · rw [ascii (by omega), quote]
    exact readStringBody_simple (by decide) rest
  · rw [ascii (by omega), backslash]
    exact readStringBody_simple (by decide) rest
  · rw [ascii (by omega), back]
    exact readStringBody_simple (by decide) rest
  · rw [ascii (by omega), tab]
    exact readStringBody_simple (by decide) rest
  · rw [ascii (by omega), line]
    exact readStringBody_simple (by decide) rest
  · rw [ascii (by omega), feed]
    exact readStringBody_simple (by decide) rest
  · rw [ascii (by omega), return_]
    exact readStringBody_simple (by decide) rest
  · have digit : ∀ value < 16, hexValue (hexDigit value) = value := by decide
    have code : ((hexValue 0x30 * 16 + hexValue 0x30) * 16 +
        hexValue (hexDigit (char.toNat / 16))) * 16 +
          hexValue (hexDigit (char.toNat % 16)) = char.toNat := by
      rw [digit _ (by omega), digit _ (by omega),
        show hexValue 0x30 = 0 from by decide]
      omega
    simp only [List.cons_append, List.nil_append]
    rw [readStringBody_unicode, code, Char.ofNat_toNat]
  · have literal : (String.utf8EncodeChar char).all isLiteralByte = true :=
      utf8EncodeChar_literal (by omega) quote backslash
    generalize String.utf8EncodeChar char = bytes at literal
    clear ascii
    induction bytes with
    | nil =>
        rw [List.nil_append]
        cases readStringBody rest <;> rfl
    | cons byte more ih =>
        simp only [List.all_cons, Bool.and_eq_true] at literal
        rw [List.cons_append, readStringBody_literal literal.1, ih literal.2,
          prepend_append]
        rfl

theorem readString_renderString (text : String) (rest : List UInt8) :
    readString (text.toList.flatMap escapeChar ++ 0x22 :: rest) =
      some (text, rest) := by
  have body : ∀ chars : List Char,
      readStringBody (chars.flatMap escapeChar ++ 0x22 :: rest) =
        some (chars.flatMap String.utf8EncodeChar, rest) := by
    intro chars
    induction chars with
    | nil => exact readStringBody_quote rest
    | cons char more ih =>
        rw [List.flatMap_cons, List.append_assoc, readStringBody_escapeChar,
          ih]
        simp [prepend]
  simp only [readString, body]
  have decoded := decodeUtf8_utf8 text
  simp only [utf8] at decoded
  rw [decoded]
  rfl

theorem readScalar_integer {value : Int} (low : i64Min ≤ value)
    (high : value ≤ u64Max) :
    readScalar (asciiBytes (integerChars value)) = .integer value := by
  have digits : Text.readDigits (Nat.toDigits 10 value.natAbs) =
      some value.natAbs := by
    have reads := Text.readDigits_zeroPadded 0 value.natAbs
    rw [← Text.decimal_eq_zeroPadded] at reads
    simpa [Text.decimal] using reads
  have scalarCode : ∀ char ∈ integerChars value, char.toNat < 0x80 ∧
      char.toNat ≠ 0x6E ∧ char.toNat ≠ 0x74 ∧ char.toNat ≠ 0x66 := by
    have digitCode : ∀ char ∈ Nat.toDigits 10 value.natAbs,
        0x30 ≤ char.toNat ∧ char.toNat ≤ 0x39 := by
      intro char member
      have isDigit := Nat.isDigit_of_mem_toDigits (by omega) (by omega) member
      simp only [Char.isDigit, Bool.and_eq_true,
        decide_eq_true_eq] at isDigit
      exact ⟨UInt32.le_iff_toNat_le.mp isDigit.1,
        UInt32.le_iff_toNat_le.mp isDigit.2⟩
    intro char member
    unfold integerChars at member
    split at member
    · rcases List.mem_cons.mp member with rfl | inDigits
      · decide
      · have code := digitCode char inDigits
        omega
    · have code := digitCode char member
      omega
  have chars : (asciiBytes (integerChars value)).map
      (fun byte => Char.ofNat byte.toNat) = integerChars value := by
    rw [asciiBytes, List.map_map]
    refine (List.map_congr_left ?_).trans (List.map_id _)
    intro char member
    have small := (scalarCode char member).1
    have code : (UInt8.ofNat char.toNat).toNat = char.toNat := by
      rw [UInt8.toNat_ofNat']
      omega
    simp [code]
  have notWord : ∀ (byte : UInt8) (rest : List UInt8),
      byte = 0x6E ∨ byte = 0x74 ∨ byte = 0x66 →
        asciiBytes (integerChars value) ≠ byte :: rest := by
    intro byte rest word same
    cases shape : integerChars value with
    | nil => exact integerChars_ne_nil value shape
    | cons char more =>
        have code := scalarCode char (by rw [shape]; exact List.mem_cons_self)
        rw [shape] at same
        injection same with first _
        have same8 : (UInt8.ofNat char.toNat).toNat = byte.toNat :=
          congrArg UInt8.toNat first
        rw [UInt8.toNat_ofNat'] at same8
        rcases word with rfl | rfl | rfl <;> simp at same8 <;> omega
  unfold readScalar
  rw [if_neg (notWord _ _ (by decide)), if_neg (notWord _ _ (by decide)),
    if_neg (notWord _ _ (by decide))]
  simp only [chars]
  have reads : readInteger (integerChars value) = some value := by
    unfold integerChars
    split
    · rename_i negative
      simp only [readInteger, digits, Option.bind_some]
      rw [if_pos (by omega)]
      congr 1
      omega
    · rename_i nonnegative
      unfold readInteger
      split
      · rename_i more minus
        have first : '-' ∈ Nat.toDigits 10 value.natAbs := by
          rw [minus]
          exact List.mem_cons_self
        have isDigit := Nat.isDigit_of_mem_toDigits (by omega) (by omega) first
        exact absurd isDigit (by decide)
      · rw [digits, Option.bind_some, if_pos (by omega)]
        congr 1
        omega
  rw [reads]

/-! ### Documents are read back -/

theorem skipSpace_append {gap rest : List UInt8}
    (space : gap.all isSpace = true) :
    skipSpace (gap ++ rest) = skipSpace rest := by
  unfold skipSpace
  rw [List.dropWhile_append_of_pos
    (fun byte member => List.all_eq_true.mp space byte member)]

theorem skipSpace_cons (byte : UInt8) (token : isSpace byte = false)
    (rest : List UInt8) : skipSpace (byte :: rest) = byte :: rest := by
  simp [skipSpace, token]

/-- The text does not go on with a number or a word. -/
def Ends (rest : List UInt8) : Prop :=
  ∀ byte ∈ rest.head?, isScalarByte byte = false

theorem ends_cons {byte : UInt8} (token : isScalarByte byte = false)
    (rest : List UInt8) : Ends (byte :: rest) := by
  simpa [Ends] using token

theorem ends_gap {gap rest : List UInt8} (space : gap.all isSpace = true)
    (ends : Ends rest) : Ends (gap ++ rest) := by
  cases gap with
  | nil => exact ends
  | cons byte more =>
      simp only [List.all_cons, Bool.and_eq_true] at space
      exact ends_cons (isScalarByte_of_isSpace space.1) _

theorem readValue_scalar {bytes rest : List UInt8} (fuel : Nat)
    (scalar : bytes.all isScalarByte = true) (nonempty : bytes ≠ [])
    (ends : Ends rest) {gap : List UInt8} (space : gap.all isSpace = true) :
    readValue (fuel + 1) (gap ++ (bytes ++ rest)) =
      some (readScalar bytes, rest) := by
  cases bytes with
  | nil => exact absurd rfl nonempty
  | cons byte more =>
      have first : isScalarByte byte = true := by
        simp only [List.all_cons, Bool.and_eq_true] at scalar
        exact scalar.1
      have notSpace : isSpace byte = false := by
        cases blank : isSpace byte with
        | false => rfl
        | true =>
            rw [isScalarByte_of_isSpace blank] at first
            cases first
      have different : ∀ token : UInt8, isScalarByte token = false →
          byte ≠ token := by
        rintro token plainToken rfl
        rw [plainToken] at first
        cases first
      have all : ∀ other ∈ byte :: more, isScalarByte other = true :=
        fun other member => List.all_eq_true.mp scalar other member
      have taken : (byte :: (more ++ rest)).takeWhile isScalarByte =
          byte :: more := by
        rw [← List.cons_append, List.takeWhile_append_of_pos all]
        cases rest with
        | nil => simp
        | cons head tail => simp [ends head rfl]
      have dropped : (byte :: (more ++ rest)).dropWhile isScalarByte =
          rest := by
        rw [← List.cons_append, List.dropWhile_append_of_pos all]
        cases rest with
        | nil => simp
        | cons head tail => simp [ends head rfl]
      rw [readValue, skipSpace_append space, List.cons_append,
        skipSpace_cons _ notSpace]
      simp only [different 0x22 (by decide), different 0x5B (by decide),
        different 0x7B (by decide), if_false, first, if_true, taken, dropped]

/-- A document whose rendering is read back wherever a value is expected. -/
def ReadsBack (layout : Layout) (document : Json) : Prop :=
  ∀ depth fuel gap rest, (render layout depth document).length ≤ fuel →
    gap.all isSpace = true → Ends rest →
      readValue fuel (gap ++ (render layout depth document ++ rest)) =
        some (document, rest)

theorem render_length_pos (layout : Layout) (depth limit : Nat)
    (document : Json) (isPlain : document.plain limit = true) :
    0 < (render layout depth document).length := by
  obtain ⟨byte, rest, shape, _⟩ :=
    render_head layout depth limit document isPlain
  rw [shape]
  exact Nat.succ_pos _

theorem readItems_render (layout : Layout) (depth : Nat) (first : Json)
    (items : List Json) {limit : Nat}
    (reads : ∀ item ∈ first :: items, ReadsBack layout item)
    (isPlain : ∀ item ∈ first :: items, item.plain limit = true)
    (fuel : Nat) (outer : Nat) (gap rest : List UInt8)
    (enough : (render layout depth first).length +
      (renderItems layout depth items).length + 1 ≤ fuel)
    (space : gap.all isSpace = true) :
    readItems fuel (gap ++ (render layout depth first ++
        (renderItems layout depth items ++
          (layout.gap outer ++ 0x5D :: rest)))) =
      some (first :: items, rest) := by
  induction items generalizing first fuel gap with
  | nil =>
      cases fuel with
      | zero => omega
      | succ fuel =>
          have read := reads first List.mem_cons_self depth fuel gap
            (layout.gap outer ++ 0x5D :: rest)
            (by simp [renderItems] at enough; omega) space
            (ends_gap (layout.gapSpace outer) (ends_cons (by decide) rest))
          simp only [renderItems, List.nil_append]
          rw [readItems, read]
          simp only [skipSpace_append (layout.gapSpace outer)]
          rw [skipSpace_cons _ (by decide)]
          simp
  | cons second more ih =>
      cases fuel with
      | zero => omega
      | succ fuel =>
          have positive := render_length_pos layout depth limit first
            (isPlain first List.mem_cons_self)
          simp only [renderItems, List.length_cons,
            List.length_append] at enough
          have read := reads first List.mem_cons_self depth fuel gap
            (0x2C :: (layout.gap depth ++ (render layout depth second ++
              (renderItems layout depth more ++
                (layout.gap outer ++ 0x5D :: rest)))))
            (by omega) space (ends_cons (by decide) _)
          have others := ih second
            (fun item member => reads item (List.mem_cons_of_mem _ member))
            (fun item member => isPlain item (List.mem_cons_of_mem _ member))
            fuel (layout.gap depth) (by omega) (layout.gapSpace depth)
          simp only [renderItems, List.cons_append, List.append_assoc]
          rw [readItems, read]
          simp only [skipSpace_cons 0x2C (by decide), others]
          simp

theorem readMembers_render (layout : Layout) (depth : Nat) (key : String)
    (first : Json) (members : List (String × Json)) {limit : Nat}
    (reads : ∀ member ∈ (key, first) :: members, ReadsBack layout member.2)
    (isPlain : ∀ member ∈ (key, first) :: members,
      member.2.plain limit = true)
    (fuel : Nat) (outer : Nat) (gap rest : List UInt8)
    (enough : (render layout depth first).length +
      (renderMembers layout depth members).length + 1 ≤ fuel)
    (space : gap.all isSpace = true) :
    readMembers fuel (gap ++ (renderString key ++ 0x3A ::
        (layout.afterColon ++ (render layout depth first ++
          (renderMembers layout depth members ++
            (layout.gap outer ++ 0x7D :: rest)))))) =
      some ((key, first) :: members, rest) := by
  have keyed : ∀ (name : String) (after : List UInt8),
      renderString name ++ after =
        0x22 :: (name.toList.flatMap escapeChar ++ 0x22 :: after) := by
    intro name after
    simp [renderString]
  induction members generalizing key first fuel gap with
  | nil =>
      cases fuel with
      | zero => omega
      | succ fuel =>
          have read := reads (key, first) List.mem_cons_self depth fuel
            layout.afterColon (layout.gap outer ++ 0x7D :: rest)
            (by simp [renderMembers] at enough; omega) layout.afterColonSpace
            (ends_gap (layout.gapSpace outer) (ends_cons (by decide) rest))
          simp only [renderMembers, List.nil_append]
          rw [readMembers, skipSpace_append space, keyed,
            skipSpace_cons _ (by decide)]
          simp only [if_true, readString_renderString]
          rw [skipSpace_cons _ (by decide)]
          simp only [if_true, read, skipSpace_append (layout.gapSpace outer)]
          rw [skipSpace_cons _ (by decide)]
          simp
  | cons second more ih =>
      cases fuel with
      | zero => omega
      | succ fuel =>
          rcases second with ⟨secondKey, secondValue⟩
          have positive := render_length_pos layout depth limit first
            (isPlain (key, first) List.mem_cons_self)
          simp only [renderMembers, List.length_cons,
            List.length_append] at enough
          have read := reads (key, first) List.mem_cons_self depth fuel
            layout.afterColon
            (0x2C :: (layout.gap depth ++ (renderString secondKey ++ 0x3A ::
              (layout.afterColon ++ (render layout depth secondValue ++
                (renderMembers layout depth more ++
                  (layout.gap outer ++ 0x7D :: rest)))))))
            (by simp only; omega) layout.afterColonSpace
            (ends_cons (by decide) _)
          have others := ih secondKey secondValue
            (fun member inRest => reads member (List.mem_cons_of_mem _ inRest))
            (fun member inRest =>
              isPlain member (List.mem_cons_of_mem _ inRest))
            fuel (layout.gap depth) (by omega) (layout.gapSpace depth)
          simp only [renderMembers, List.cons_append, List.append_assoc]
          rw [readMembers, skipSpace_append space, keyed,
            skipSpace_cons _ (by decide)]
          simp only [if_true, readString_renderString]
          rw [skipSpace_cons _ (by decide)]
          simp only [if_true, read]
          rw [skipSpace_cons _ (by decide)]
          simp only [others]
          simp

theorem readsBack (layout : Layout) (document : Json) :
    ∀ limit, document.plain limit = true → ReadsBack layout document := by
  have opened : ∀ {gap rest : List UInt8} (token : UInt8),
      isSpace token = false → gap.all isSpace = true →
        skipSpace (gap ++ token :: rest) = token :: rest := by
    intro gap rest token notSpace space
    rw [skipSpace_append space, skipSpace_cons _ notSpace]
  induction document using Json.treeInduction with
  | null =>
      intro _ _ depth fuel gap rest enough space ends
      cases fuel with
      | zero => cases enough
      | succ fuel =>
          simp only [render]
          exact readValue_scalar fuel (by decide) (by decide) ends space
  | bool value =>
      intro _ _ depth fuel gap rest enough space ends
      cases fuel with
      | zero => cases value <;> cases enough
      | succ fuel =>
          cases value with
          | true =>
              simp only [render]
              exact readValue_scalar fuel (by decide) (by decide) ends space
          | false =>
              simp only [render]
              exact readValue_scalar fuel (by decide) (by decide) ends space
  | integer value =>
      intro limit isPlain depth fuel gap rest enough space ends
      have nonempty : asciiBytes (integerChars value) ≠ [] := by
        simpa [asciiBytes] using integerChars_ne_nil value
      cases fuel with
      | zero =>
          have length := List.length_pos_of_ne_nil nonempty
          simp only [render] at enough
          omega
      | succ fuel =>
          simp only [plain, Bool.and_eq_true, decide_eq_true_eq] at isPlain
          have scalar : (asciiBytes (integerChars value)).all isScalarByte =
              true := by
            rw [List.all_eq_true]
            intro byte member
            obtain ⟨char, inChars, rfl⟩ := List.mem_map.mp member
            exact integerChars_scalar value char inChars
          simp only [render]
          rw [readValue_scalar fuel scalar nonempty ends space,
            readScalar_integer isPlain.1 isPlain.2]
  | float text =>
      intro limit isPlain
      simp [plain] at isPlain
  | string text =>
      intro limit _isPlain depth fuel gap rest enough space _ends
      cases fuel with
      | zero => simp [render, renderString] at enough
      | succ fuel =>
          simp only [render, renderString, List.cons_append,
            List.append_assoc, List.nil_append]
          rw [readValue, opened 0x22 (by decide) space]
          simp only [if_true, readString_renderString]
          rfl
  | array items itemsRead =>
      intro limit isPlain depth fuel gap rest enough space _ends
      cases limit with
      | zero => simp [plain] at isPlain
      | succ inner =>
          have itemsPlain := plainItems_mem isPlain
          cases fuel with
          | zero =>
              have positive := render_length_pos layout depth (inner + 1)
                (.array items) isPlain
              omega
          | succ fuel =>
              cases items with
              | nil =>
                  simp only [render, List.cons_append, List.nil_append]
                  rw [readValue, opened 0x5B (by decide) space]
                  simp [skipSpace_cons 0x5D (by decide)]
              | cons first more =>
                  obtain ⟨byte, tail, shape, notSpace, notBracket⟩ :=
                    render_head layout (depth + 1) inner first
                      (itemsPlain first List.mem_cons_self)
                  have read := readItems_render layout (depth + 1) first more
                    (fun item member => itemsRead item member inner
                      (itemsPlain item member)) itemsPlain fuel depth
                    (layout.gap (depth + 1)) rest
                    (by
                      simp only [render, List.length_cons,
                        List.length_append] at enough
                      omega)
                    (layout.gapSpace (depth + 1))
                  have begins : ∀ after, skipSpace (layout.gap (depth + 1) ++
                      (render layout (depth + 1) first ++ after)) =
                        byte :: (tail ++ after) := by
                    intro after
                    rw [skipSpace_append (layout.gapSpace (depth + 1)), shape,
                      List.cons_append, skipSpace_cons _ notSpace]
                  simp only [render, List.cons_append, List.append_assoc,
                    List.nil_append]
                  rw [readValue, opened 0x5B (by decide) space]
                  simp only [begins, notBracket, read]
                  simp
  | object members membersRead =>
      intro limit isPlain depth fuel gap rest enough space _ends
      cases limit with
      | zero => simp [plain] at isPlain
      | succ inner =>
          cases fuel with
          | zero =>
              have positive := render_length_pos layout depth (inner + 1)
                (.object members) isPlain
              omega
          | succ fuel =>
              simp only [plain, Bool.and_eq_true] at isPlain
              have membersPlain := plainMembers_mem isPlain.2
              cases members with
              | nil =>
                  simp only [render, List.cons_append, List.nil_append]
                  rw [readValue, opened 0x7B (by decide) space]
                  simp [skipSpace_cons 0x7D (by decide)]
              | cons first more =>
                  rcases first with ⟨key, value⟩
                  have read := readMembers_render layout (depth + 1) key value
                    more (fun member inMembers => membersRead member inMembers
                      inner (membersPlain member inMembers)) membersPlain fuel
                    depth (layout.gap (depth + 1)) rest
                    (by
                      simp only [render, List.length_cons,
                        List.length_append] at enough
                      omega)
                    (layout.gapSpace (depth + 1))
                  have begins : ∀ after, skipSpace (layout.gap (depth + 1) ++
                      (renderString key ++ after)) = 0x22 ::
                        (key.toList.flatMap escapeChar ++ 0x22 :: after) := by
                    intro after
                    rw [skipSpace_append (layout.gapSpace (depth + 1))]
                    simp [renderString, skipSpace_cons 0x22 (by decide)]
                  simp only [render, List.cons_append, List.append_assoc,
                    List.nil_append]
                  rw [readValue, opened 0x7B (by decide) space]
                  simp only [begins, read]
                  simp

end Recursive

/-- A reader that meets the two laws. -/
def recursiveReader : DocumentReader where
  read := fun bytes =>
    if accepts bytes then
      match Recursive.readValue bytes.length bytes with
      | some (document, rest) =>
          if rest.all isSpace then .ok document
          else .error "trailing characters"
      | none => .error "expected value"
    else .error "expected value"
  sound := by
    intro bytes document reads
    split at reads
    · assumption
    · cases reads
  complete := by
    intro layout document isPlain trailing space
    have whole := accepts_render layout document isPlain space
    have ends : Recursive.Ends trailing := by
      have gap : Recursive.Ends (trailing ++ []) :=
        Recursive.ends_gap space (by simp [Recursive.Ends])
      rw [List.append_nil] at gap
      exact gap
    have read := Recursive.readsBack layout document _ isPlain 0
      (render layout 0 document ++ trailing).length [] trailing (by simp) rfl
      ends
    rw [List.nil_append] at read
    simp only [whole, if_true, read, space]

end JsonGrammar

end Foundation
