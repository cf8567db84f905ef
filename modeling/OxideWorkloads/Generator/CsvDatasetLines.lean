/-
What the lines of a CSV data set show to a reader of standard CSV.

No field of a row contains a quote, a comma or a line ending, so only the
special names need quotes.  A name with doubled quotes is the escaped form of
the name with single ones.
-/

import OxideWorkloads.CsvImport.Import
import OxideWorkloads.Foundation.Csv
import OxideWorkloads.Generator.CsvDataset

namespace Generator

open Foundation
open CsvImport (Platform)

namespace CsvPostgres

/-- Standard CSV. -/
def standard : Csv.Dialect Char :=
  { quote := '"'
    separator := ','
    ending := '\n'
    separator_ne_quote := by decide
    ending_ne_quote := by decide
    ending_ne_separator := by decide }

/-! ### Fields -/

theorem quoted_toList (field : String) :
    ("\"" ++ doubleQuotes field ++ "\"").toList =
      standard.quoted field.toList := by
  unfold doubleQuotes Csv.Dialect.quoted Csv.Dialect.escape
  simp only [String.toList_append, String.toList_ofList]
  rfl

/-- Every field is written so that it is read back. -/
theorem quoteCsvField_written (field : String) :
    standard.Written field.toList (quoteCsvField field).toList := by
  unfold quoteCsvField
  split
  · rw [quoted_toList]
    exact Csv.Dialect.Written.quoted
  · rename_i plain
    rw [not_or, not_or] at plain
    exact Csv.Dialect.Written.bare ⟨plain.2.1, plain.1, plain.2.2⟩

/-- The characters of the fields that are written without quotes. -/
def isFieldChar (char : Char) : Bool :=
  char.isAlphanum || [' ', '-', ':', '+', '.', '@', '_'].contains char

/-- A text of such characters. -/
def PlainField (text : String) : Prop :=
  ∀ char ∈ text.toList, isFieldChar char = true

theorem PlainField.not_mem {text : String} (plain : PlainField text)
    {char : Char} (special : isFieldChar char = false) :
    char ∉ text.toList := by
  intro member
  rw [plain char member] at special
  cases special

theorem PlainField.free {text : String} (plain : PlainField text) :
    standard.Free text.toList :=
  ⟨plain.not_mem (by decide), plain.not_mem (by decide),
    plain.not_mem (by decide)⟩

theorem PlainField.written {text : String} (plain : PlainField text) :
    standard.Written text.toList text.toList :=
  Csv.Dialect.Written.bare plain.free

theorem PlainField.append {first second : String} (start : PlainField first)
    (rest : PlainField second) : PlainField (first ++ second) := by
  intro char member
  rw [String.toList_append] at member
  rcases List.mem_append.mp member with inStart | inRest
  · exact start char inStart
  · exact rest char inRest

theorem isFieldChar_of_isDigit {char : Char} (digit : char.isDigit = true) :
    isFieldChar char = true := by
  unfold isFieldChar Char.isAlphanum
  rw [digit, Bool.or_true, Bool.true_or]

theorem plainField_decimal (value : Nat) : PlainField (Text.decimal value) :=
  fun _ member => isFieldChar_of_isDigit (Text.decimal_isDigit member)

theorem plainField_signed (value : Int) : PlainField (Text.signed value) := by
  intro char member
  rcases Text.signed_chars member with minus | digit
  · rw [minus]
    decide
  · exact isFieldChar_of_isDigit digit

theorem plainField_emailOf (customerId : UInt64) :
    PlainField (emailOf customerId) := by
  have start : PlainField "customer" :=
    List.all_eq_true.mp (by decide +kernel)
  have domain : PlainField "@example.test" :=
    List.all_eq_true.mp (by decide +kernel)
  exact (start.append (plainField_decimal _)).append domain

/-! ### Lines -/

/-- A row whose fields need no quotes. -/
structure PlainRow (platform : Platform) (row : BaseRow) : Prop where
  name : PlainField row.name
  email : PlainField row.email
  createdAt : PlainField (platform.toRfc3339 row.createdAt)

/-- The name that a line shows. -/
def shownName (variant : RowVariant) (name : String) : String :=
  match variant with
  | .quotedField => "Smith, " ++ name
  | .escapedQuoteField => name ++ " \"the great\""
  | _ => name

/-- The fields that a line shows. -/
def shownFields (platform : Platform) (variant : RowVariant) (row : BaseRow) :
    List String :=
  let customerId := Text.decimal row.customerId.toNat
  let amount := Text.signed row.amount.toInt
  let createdAt := platform.toRfc3339 row.createdAt
  match variant with
  | .malformedFieldCount => [customerId, row.name, row.email, amount]
  | .malformedAmount =>
      [customerId, row.name, row.email, "NOT_A_NUMBER", createdAt]
  | variant =>
      [customerId, shownName variant row.name, row.email, amount, createdAt]

/-- The texts of the fields, with their quotes. -/
def writtenTexts (platform : Platform) (variant : RowVariant)
    (row : BaseRow) : List (List Char) :=
  let customerId := (Text.decimal row.customerId.toNat).toList
  let name := (quoteCsvField row.name).toList
  let email := row.email.toList
  let amount := (Text.signed row.amount.toInt).toList
  let createdAt := (platform.toRfc3339 row.createdAt).toList
  match variant with
  | .malformedFieldCount => [customerId, name, email, amount]
  | .malformedAmount =>
      [customerId, name, email, "NOT_A_NUMBER".toList, createdAt]
  | .quotedField | .escapedQuoteField =>
      [customerId, standard.quoted (shownName variant row.name).toList, email,
        amount, createdAt]
  | _ => [customerId, name, email, amount, createdAt]

variable {platform : Platform} {row : BaseRow}

theorem escape_plain {text : String} (plain : PlainField text) :
    standard.escape text.toList = text.toList := by
  have single : ∀ char ∈ text.toList,
      (if char = standard.quote then [char, char] else [char]) = [char] := by
    intro char member
    apply if_neg
    intro quote
    rw [quote] at member
    exact plain.free.1 member
  unfold Csv.Dialect.escape
  rw [List.flatMap_congr single, List.flatMap_singleton']

theorem line_five (first second third fourth fifth : List Char) :
    standard.line [first, second, third, fourth, fifth] =
      first ++ ',' :: (second ++ ',' :: (third ++ ',' :: (fourth ++ ',' ::
        (fifth ++ ['\n'])))) := by
  simp [Csv.Dialect.line, List.intercalate_cons_cons, standard]

theorem line_four (first second third fourth : List Char) :
    standard.line [first, second, third, fourth] =
      first ++ ',' :: (second ++ ',' :: (third ++ ',' ::
        (fourth ++ ['\n']))) := by
  simp [Csv.Dialect.line, List.intercalate_cons_cons, standard]

theorem quoted_comma {name : String} (plain : PlainField name) :
    standard.quoted ("Smith, " ++ name).toList =
      '"' :: ("Smith, " ++ name ++ "\"").toList := by
  have start :
      standard.escape "Smith, ".toList = "Smith, ".toList := by
    decide +kernel
  unfold Csv.Dialect.quoted
  simp only [String.toList_append]
  rw [Csv.Dialect.escape_append, start, escape_plain plain]
  rfl

theorem quoted_quotes {name : String} (plain : PlainField name) :
    standard.quoted (name ++ " \"the great\"").toList =
      '"' :: (name ++ " \"\"the great\"\"" ++ "\"").toList := by
  have ending : standard.escape " \"the great\"".toList =
      " \"\"the great\"\"".toList := by decide +kernel
  unfold Csv.Dialect.quoted
  simp only [String.toList_append]
  rw [Csv.Dialect.escape_append, ending, escape_plain plain]
  rfl

/-- A line consists of the texts of its fields. -/
theorem writeRow_line (plain : PlainRow platform row) (variant : RowVariant) :
    (writeRow platform variant row).toList =
      standard.line (writtenTexts platform variant row) := by
  cases variant with
  | normal =>
      simp only [writeRow, writtenTexts, line_five, String.toList_append,
        List.append_assoc]
      rfl
  | duplicateKey =>
      simp only [writeRow, writtenTexts, line_five, String.toList_append,
        List.append_assoc]
      rfl
  | malformedFieldCount =>
      simp only [writeRow, writtenTexts, line_four, String.toList_append,
        List.append_assoc]
      rfl
  | malformedAmount =>
      simp only [writeRow, writtenTexts, line_five, String.toList_append,
        List.append_assoc]
      rfl
  | quotedField =>
      simp only [writtenTexts, shownName, quoted_comma plain.name]
      simp only [writeRow, line_five, String.toList_append, List.append_assoc,
        List.cons_append]
      rfl
  | escapedQuoteField =>
      simp only [writtenTexts, shownName, quoted_quotes plain.name]
      simp only [writeRow, line_five, String.toList_append, List.append_assoc,
        List.cons_append]
      rfl

/-- A line shows its fields. -/
theorem writeRow_shows (plain : PlainRow platform row)
    (variant : RowVariant) :
    standard.Shows ((shownFields platform variant row).map String.toList)
      (writeRow platform variant row).toList := by
  have customerId := (plainField_decimal row.customerId.toNat).written
  have name := quoteCsvField_written row.name
  have email := plain.email.written
  have amount := (plainField_signed row.amount.toInt).written
  have createdAt := plain.createdAt.written
  have noNumber : PlainField "NOT_A_NUMBER" :=
    List.all_eq_true.mp (by decide +kernel)
  refine ⟨writtenTexts platform variant row, ?_, ?_,
    writeRow_line plain variant⟩
  · cases variant <;> exact List.cons_ne_nil _ _
  · cases variant with
    | normal =>
        exact .cons customerId (.cons name (.cons email (.cons amount
          (.cons createdAt .nil))))
    | duplicateKey =>
        exact .cons customerId (.cons name (.cons email (.cons amount
          (.cons createdAt .nil))))
    | malformedFieldCount =>
        exact .cons customerId (.cons name (.cons email (.cons amount .nil)))
    | malformedAmount =>
        exact .cons customerId (.cons name (.cons email
          (.cons noNumber.written (.cons createdAt .nil))))
    | quotedField =>
        exact .cons customerId (.cons .quoted (.cons email (.cons amount
          (.cons createdAt .nil))))
    | escapedQuoteField =>
        exact .cons customerId (.cons .quoted (.cons email (.cons amount
          (.cons createdAt .nil))))

/-- A line that ends where it should and shows these fields. -/
structure Reads (line : String) (fields : List String) : Prop where
  ended : ∃ text : String, line = text ++ "\n" ∧ '\n' ∉ text.toList
  fields : standard.parse line.toList = some [fields.map String.toList]

/-! ### Characters -/

/-- A character of ASCII that is no carriage return. -/
def Simple (char : Char) : Prop :=
  char.toNat < 128 ∧ char ≠ '\r'

theorem isAlphanum_range {char : Char} (alphanum : char.isAlphanum = true) :
    char.toNat < 128 := by
  unfold Char.isAlphanum Char.isAlpha Char.isUpper Char.isLower at alphanum
  simp only [Bool.or_eq_true, Bool.and_eq_true, decide_eq_true_eq]
    at alphanum
  rcases alphanum with (upper | lower) | digit
  · have most := UInt32.le_iff_toNat_le.mp upper.2
    exact Nat.lt_of_le_of_lt most (by decide)
  · have most := UInt32.le_iff_toNat_le.mp lower.2
    exact Nat.lt_of_le_of_lt most (by decide)
  · have range := Text.isDigit_range digit
    omega

theorem simple_of_isFieldChar {char : Char}
    (plain : isFieldChar char = true) : Simple char := by
  constructor
  · unfold isFieldChar at plain
    rcases Bool.or_eq_true_iff.mp plain with alphanum | sign
    · exact isAlphanum_range alphanum
    · have signs : [' ', '-', ':', '+', '.', '@', '_'].all
          (fun sign => decide (sign.toNat < 128)) = true := by decide
      exact of_decide_eq_true
        (List.all_eq_true.mp signs char (List.contains_iff_mem.mp sign))
  · intro same
    rw [same] at plain
    exact absurd plain (by decide)

/-- The characters that may stand in a line before its end. -/
def isShownChar (char : Char) : Bool :=
  isFieldChar char || [',', '"'].contains char

theorem isShownChar_of_isFieldChar {char : Char}
    (plain : isFieldChar char = true) : isShownChar char = true := by
  unfold isShownChar
  rw [plain, Bool.true_or]

theorem simple_of_isShownChar {char : Char}
    (shown : isShownChar char = true) : Simple char ∧ char ≠ '\n' := by
  constructor
  · unfold isShownChar at shown
    rcases Bool.or_eq_true_iff.mp shown with own | special
    · exact simple_of_isFieldChar own
    · rcases List.mem_cons.mp (List.contains_iff_mem.mp special) with
        comma | quote
      · rw [comma]
        exact ⟨by decide, by decide⟩
      · rw [List.mem_singleton.mp quote]
        exact ⟨by decide, by decide⟩
  · intro same
    rw [same] at shown
    exact absurd shown (by decide)

theorem mem_shownFields {variant : RowVariant} {field : String}
    (member : field ∈ shownFields platform variant row) :
    field = Text.decimal row.customerId.toNat ∨
      field = shownName variant row.name ∨ field = row.email ∨
      field = Text.signed row.amount.toInt ∨ field = "NOT_A_NUMBER" ∨
      field = platform.toRfc3339 row.createdAt := by
  cases variant <;>
    simp only [shownFields, shownName, List.mem_cons, List.not_mem_nil,
      or_false] at member ⊢ <;>
    tauto

/-- The characters that a line shows. -/
theorem shownFields_chars (plain : PlainRow platform row)
    {variant : RowVariant} {field : String}
    (member : field ∈ shownFields platform variant row) {char : Char}
    (inside : char ∈ field.toList) : isShownChar char = true := by
  rcases mem_shownFields member with id | name | email | amount | text |
    createdAt
  · rw [id] at inside
    exact isShownChar_of_isFieldChar (plainField_decimal _ char inside)
  · have start : "Smith, ".toList.all isShownChar = true := by
      decide +kernel
    have ending : " \"the great\"".toList.all isShownChar = true := by
      decide +kernel
    rw [name] at inside
    unfold shownName at inside
    split at inside
    · rw [String.toList_append] at inside
      rcases List.mem_append.mp inside with added | own
      · exact List.all_eq_true.mp start char added
      · exact isShownChar_of_isFieldChar (plain.name char own)
    · rw [String.toList_append] at inside
      rcases List.mem_append.mp inside with own | added
      · exact isShownChar_of_isFieldChar (plain.name char own)
      · exact List.all_eq_true.mp ending char added
    · exact isShownChar_of_isFieldChar (plain.name char inside)
  · rw [email] at inside
    exact isShownChar_of_isFieldChar (plain.email char inside)
  · rw [amount] at inside
    exact isShownChar_of_isFieldChar (plainField_signed _ char inside)
  · have word : PlainField "NOT_A_NUMBER" :=
      List.all_eq_true.mp (by decide +kernel)
    rw [text] at inside
    exact isShownChar_of_isFieldChar (word char inside)
  · rw [createdAt] at inside
    exact isShownChar_of_isFieldChar (plain.createdAt char inside)

/-- A line is of simple characters, and only its last one ends it. -/
theorem writeRow_chars (plain : PlainRow platform row)
    (variant : RowVariant) :
    ∃ text, (writeRow platform variant row).toList = text ++ ['\n'] ∧
      ∀ char ∈ text, Simple char ∧ char ≠ '\n' := by
  obtain ⟨text, same, marks⟩ := (writeRow_shows plain variant).marks
  refine ⟨text, same, ?_⟩
  intro char member
  apply simple_of_isShownChar
  rcases marks char member with ⟨field, listed, inside⟩ | separator | quote
  · obtain ⟨source, sourceListed, rfl⟩ := List.mem_map.mp listed
    exact shownFields_chars plain sourceListed inside
  · rw [separator]
    decide
  · rw [quote]
    decide

theorem writeRow_simple (plain : PlainRow platform row)
    (variant : RowVariant) :
    ∀ char ∈ (writeRow platform variant row).toList, Simple char := by
  obtain ⟨text, same, chars⟩ := writeRow_chars plain variant
  intro char member
  rw [same] at member
  rcases List.mem_append.mp member with inside | last
  · exact (chars char inside).1
  · rw [List.mem_singleton.mp last]
    exact ⟨by decide, by decide⟩

theorem writeRow_reads (plain : PlainRow platform row)
    (variant : RowVariant) :
    Reads (writeRow platform variant row)
      (shownFields platform variant row) := by
  constructor
  · obtain ⟨text, same, chars⟩ := writeRow_chars plain variant
    refine ⟨String.ofList text, ?_, ?_⟩
    · apply String.toList_inj.mp
      rw [same, String.toList_append, String.toList_ofList]
      rfl
    · rw [String.toList_ofList]
      intro member
      exact (chars _ member).2 rfl
  · have parsed := Csv.Dialect.parse_shows
      (.cons (writeRow_shows plain variant) .nil)
    rw [List.flatten_singleton] at parsed
    exact parsed

/-! ### What becomes of the fields -/

/-- The fields of a line whose row is neither short nor spoiled. -/
theorem shownFields_whole {variant : RowVariant}
    (fieldCount : variant ≠ .malformedFieldCount)
    (number : variant ≠ .malformedAmount) :
    shownFields platform variant row =
      [Text.decimal row.customerId.toNat, shownName variant row.name,
        row.email, Text.signed row.amount.toInt,
        platform.toRfc3339 row.createdAt] := by
  cases variant with
  | malformedFieldCount => exact absurd rfl fieldCount
  | malformedAmount => exact absurd rfl number
  | normal => rfl
  | duplicateKey => rfl
  | quotedField => rfl
  | escapedQuoteField => rfl

theorem parseI64_decimal {value : Nat} {id : Bigint}
    (same : id.val = (value : Int)) :
    CsvImport.parseI64 (Text.decimal value) = some id := by
  unfold CsvImport.parseI64
  rw [Text.parseSigned_decimal, Option.bind_some, Word.toBigint?_eq_some]
  exact same

theorem parseI64_signed (number : Bigint) :
    CsvImport.parseI64 (Text.signed number.val) = some number := by
  unfold CsvImport.parseI64
  rw [Text.parseSigned_signed, Option.bind_some, Word.toBigint?_eq_some]

variable {variant : RowVariant} {id amount : Bigint}

/-- The processor takes the fields of such a line as they are shown. -/
theorem process_shown (fieldCount : variant ≠ .malformedFieldCount)
    (number : variant ≠ .malformedAmount)
    (sameId : id.val = (row.customerId.toNat : Int))
    (sameAmount : amount.val = row.amount.toInt)
    (readsBack : platform.parseDateTime (platform.toRfc3339 row.createdAt) =
      some row.createdAt) :
    CsvImport.process platform (shownFields platform variant row) =
      .ok {
        customerId := id
        name := shownName variant row.name
        email := row.email
        amount
        createdAtRfc3339 := platform.toRfc3339 row.createdAt } := by
  have idRead := parseI64_decimal sameId
  have amountRead := parseI64_signed amount
  rw [sameAmount] at amountRead
  rw [shownFields_whole fieldCount number]
  simp [CsvImport.process, CsvImport.expectedFieldCount, Checks.ensure,
    Checks.require, idRead, amountRead, readsBack]

/-- The verifier takes them too. -/
theorem recordRow_shown (fieldCount : variant ≠ .malformedFieldCount)
    (number : variant ≠ .malformedAmount)
    (sameId : id.val = (row.customerId.toNat : Int))
    (sameAmount : amount.val = row.amount.toInt)
    (readsBack : platform.parseDateTime (platform.toRfc3339 row.createdAt) =
      some row.createdAt) :
    CsvImport.recordRow platform
        (.ok (shownFields platform variant row)) =
      some {
        customerId := id
        name := shownName variant row.name
        email := row.email
        amount
        createdAt := row.createdAt } := by
  have idRead := parseI64_decimal sameId
  have amountRead := parseI64_signed amount
  rw [sameAmount] at amountRead
  rw [shownFields_whole fieldCount number]
  simp only [CsvImport.recordRow, idRead, amountRead, readsBack,
    Option.bind_eq_bind, Option.bind_some, Option.pure_def]

end CsvPostgres

end Generator
