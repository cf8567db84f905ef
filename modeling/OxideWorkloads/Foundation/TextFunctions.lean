/-
Text functions of a systems language's standard library, as total functions
on strings: decimal formatting with zero padding, bounded integer parsing,
prefix and suffix stripping, splitting at one separator, white space.

Every function is stated on the list of characters, so that its laws are laws
of lists.
-/

import Mathlib.Data.List.Basic

namespace Foundation

/-- The largest value of an unsigned 64-bit integer. -/
def u64Max : Nat := 18446744073709551615

/-- The range of a signed 64-bit integer. -/
def i64Min : Int := -9223372036854775808

def i64Max : Int := 9223372036854775807

namespace Text

/-! ### Decimal numbers -/

/-- The decimal digits of a number, without padding. -/
def decimal (value : Nat) : String :=
  String.ofList (Nat.toDigits 10 value)

/-- The decimal digits of a number, padded on the left with zeros. -/
def zeroPadded (width value : Nat) : String :=
  let digits := Nat.toDigits 10 value
  String.ofList (List.replicate (width - digits.length) '0' ++ digits)

/-- A nonempty list of digits read in base ten. -/
def readDigits (chars : List Char) : Option Nat :=
  if chars ≠ [] ∧ chars.all Char.isDigit then
    some (Nat.ofDigitChars 10 chars 0)
  else none

/-- An unsigned integer of at most `limit`.  One leading plus sign is read
and ignored; a minus sign is not a digit. -/
def parseUnsigned (limit : Nat) (text : String) : Option Nat :=
  let digits :=
    match text.toList with
    | '+' :: rest => rest
    | chars => chars
  match readDigits digits with
  | none => none
  | some value => if value ≤ limit then some value else none

def isAsciiDigits (text : String) : Bool :=
  text.toList.all Char.isDigit

theorem zeroPadded_toList (width value : Nat) :
    (zeroPadded width value).toList =
      List.replicate (width - (Nat.toDigits 10 value).length) '0' ++
        Nat.toDigits 10 value := by
  simp [zeroPadded]

theorem zeroPadded_isAsciiDigits (width value : Nat) :
    isAsciiDigits (zeroPadded width value) = true := by
  unfold isAsciiDigits
  rw [zeroPadded_toList, List.all_eq_true]
  intro char member
  rcases List.mem_append.mp member with padding | digit
  · rw [List.eq_of_mem_replicate padding]
    decide
  · exact Nat.isDigit_of_mem_toDigits (by omega) (by omega) digit

theorem zeroPadded_ne_nil (width value : Nat) :
    (zeroPadded width value).toList ≠ [] := by
  rw [zeroPadded_toList]
  exact List.append_ne_nil_of_right_ne_nil _ Nat.toDigits_ne_nil

theorem decimal_eq_zeroPadded (value : Nat) :
    decimal value = zeroPadded 0 value := by
  simp [decimal, zeroPadded]

theorem readDigits_zeroPadded (width value : Nat) :
    readDigits (zeroPadded width value).toList = some value := by
  have digits := zeroPadded_isAsciiDigits width value
  unfold isAsciiDigits at digits
  unfold readDigits
  rw [if_pos ⟨zeroPadded_ne_nil width value, digits⟩, zeroPadded_toList,
    Nat.ofDigitChars_append, Nat.ofDigitChars_replicate_zero, Nat.mul_zero,
    Nat.ofDigitChars_toDigits (by omega) (by omega)]

/-- No digit is a plus sign, so padded digits are read as they stand. -/
theorem parseUnsigned_zeroPadded {limit value : Nat} (width : Nat)
    (bounded : value ≤ limit) :
    parseUnsigned limit (zeroPadded width value) = some value := by
  have digits := zeroPadded_isAsciiDigits width value
  have read := readDigits_zeroPadded width value
  unfold isAsciiDigits at digits
  unfold parseUnsigned
  split
  · rename_i rest plus
    rw [plus] at digits
    simp at digits
  · simp only [read, if_pos bounded]

theorem zeroPadded_injective {width left right : Nat}
    (equality : zeroPadded width left = zeroPadded width right) :
    left = right := by
  have reads := readDigits_zeroPadded width left
  rw [equality, readDigits_zeroPadded] at reads
  exact (Option.some.inj reads).symm

/-! ### Prefixes, suffixes and separators -/

def stripPrefix (text start : String) : Option String :=
  if start.toList.isPrefixOf text.toList then
    some (String.ofList (text.toList.drop start.toList.length))
  else none

def stripSuffix (text ending : String) : Option String :=
  if ending.toList.isSuffixOf text.toList then
    some (String.ofList
      (text.toList.take (text.toList.length - ending.toList.length)))
  else none

/-- The parts before and after the first occurrence of a separator. -/
def splitOnce (text : String) (separator : Char) :
    Option (String × String) :=
  match text.toList.dropWhile (fun char => char ≠ separator) with
  | [] => none
  | _ :: after =>
      some
        (String.ofList
          (text.toList.takeWhile (fun char => char ≠ separator)),
          String.ofList after)

/-- The parts before and after the last occurrence of a separator. -/
def rsplitOnce (text : String) (separator : Char) :
    Option (String × String) :=
  match text.toList.reverse.dropWhile (fun char => char ≠ separator) with
  | [] => none
  | _ :: before =>
      some
        (String.ofList before.reverse,
          String.ofList
            (text.toList.reverse.takeWhile
              (fun char => char ≠ separator)).reverse)

theorem stripPrefix_append (start rest : String) :
    stripPrefix (start ++ rest) start = some rest := by
  unfold stripPrefix
  rw [String.toList_append, if_pos (by simp), List.drop_left,
    String.ofList_toList]

theorem stripSuffix_append (start ending : String) :
    stripSuffix (start ++ ending) ending = some start := by
  unfold stripSuffix
  rw [String.toList_append,
    if_pos (List.isSuffixOf_iff_suffix.mpr (List.suffix_append _ _)),
    List.length_append, Nat.add_sub_cancel, List.take_left,
    String.ofList_toList]

theorem stripSuffix_eq_none {text ending : String}
    (different : text.toList.getLast? ≠ ending.toList.getLast?)
    (nonempty : ending.toList ≠ []) :
    stripSuffix text ending = none := by
  unfold stripSuffix
  rw [if_neg]
  intro suffix
  obtain ⟨start, equality⟩ := List.isSuffixOf_iff_suffix.mp suffix
  apply different
  rw [← equality, List.getLast?_append_of_ne_nil _ nonempty]

theorem rsplitOnce_append (before after : String) (separator : Char)
    (absent : separator ∉ after.toList) :
    rsplitOnce (before ++ String.singleton separator ++ after) separator =
      some (before, after) := by
  have others : ∀ char ∈ after.toList.reverse,
      (decide (char ≠ separator)) = true := by
    intro char member
    have present := List.mem_reverse.mp member
    simp only [decide_eq_true_eq]
    rintro rfl
    exact absent present
  unfold rsplitOnce
  simp only [String.toList_append, String.toList_singleton,
    List.reverse_append, List.reverse_singleton,
    List.dropWhile_append_of_pos others, List.takeWhile_append_of_pos others]
  simp

theorem splitOnce_append (before after : String) (separator : Char)
    (absent : separator ∉ before.toList) :
    splitOnce (before ++ String.singleton separator ++ after) separator =
      some (before, after) := by
  have others : ∀ char ∈ before.toList,
      (decide (char ≠ separator)) = true := by
    intro char member
    simp only [decide_eq_true_eq]
    rintro rfl
    exact absent member
  unfold splitOnce
  simp only [String.toList_append, String.toList_singleton, List.append_assoc,
    List.dropWhile_append_of_pos others, List.takeWhile_append_of_pos others]
  simp

/-! ### White space and display -/

/-- The code points with the Unicode property White_Space. -/
def isWhitespace (char : Char) : Bool :=
  let code := char.toNat
  (9 ≤ code && code ≤ 13) || code = 0x20 || code = 0x85 || code = 0xA0 ||
    code = 0x1680 || (0x2000 ≤ code && code ≤ 0x200A) || code = 0x2028 ||
    code = 0x2029 || code = 0x202F || code = 0x205F || code = 0x3000

/-- Nothing is left of the text once it is trimmed. -/
def isBlank (text : String) : Bool :=
  text.toList.all isWhitespace

/-- The text without the white space around it. -/
def trim (text : String) : String :=
  String.ofList
    (((text.toList.dropWhile isWhitespace).reverse.dropWhile
      isWhitespace).reverse)

theorem trim_of_solid {text : String}
    (solid : ∀ char ∈ text.toList, isWhitespace char = false) :
    trim text = text := by
  have keeps : ∀ chars : List Char,
      (∀ char ∈ chars, isWhitespace char = false) →
        chars.dropWhile isWhitespace = chars := by
    intro chars all
    cases chars with
    | nil => rfl
    | cons char rest => simp [all char List.mem_cons_self]
  rw [trim, keeps _ solid, keeps _ (fun char member =>
    solid char (List.mem_reverse.mp member)), List.reverse_reverse,
    String.ofList_toList]

/-- A line without the carriage return of its ending. -/
def stripReturn (line : String) : String :=
  (stripSuffix line "\r").getD line

/-- The first two lines of a text.  A line that the end of the text closes
keeps a carriage return. -/
def firstTwoLines (text : String) : Option (String × String) :=
  match splitOnce text '\n' with
  | none => none
  | some (first, rest) =>
      match splitOnce rest '\n' with
      | some (second, _) => some (stripReturn first, stripReturn second)
      | none =>
          if rest = "" then none else some (stripReturn first, rest)

/-- One character as the debug format of a string shows it.  Code points
above ASCII are shown as they are. -/
def debugChar (char : Char) : String :=
  match char with
  | '\t' => "\\t"
  | '\n' => "\\n"
  | '\r' => "\\r"
  | '"' => "\\\""
  | '\\' => "\\\\"
  | other =>
      if other.toNat = 0 then "\\0"
      else if other.toNat < 0x20 ∨ other.toNat = 0x7F then
        "\\u\x7b" ++ String.ofList (Nat.toDigits 16 other.toNat) ++ "\x7d"
      else String.singleton other

/-- The debug format of a string: quoted and escaped. -/
def debug (text : String) : String :=
  "\"" ++ String.join (text.toList.map debugChar) ++ "\""

end Text

end Foundation
