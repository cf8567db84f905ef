/-
Text functions of a scripting language's standard library: white space, line
breaks, and the digits of an integer.

Texts are lists of characters.  Digits are those of ASCII; the language also
takes the digits of other scripts, which no text here has.
-/

import OxideWorkloads.Foundation.DecimalOrder

namespace Foundation

namespace Python

/-- White space is the Unicode property and the four separators of ASCII. -/
def isSpace (char : Char) : Bool :=
  Text.isWhitespace char || (0x1C ≤ char.toNat && char.toNat ≤ 0x1F)

/-- The characters that end a line. -/
def isLineBreak (char : Char) : Bool :=
  let code := char.toNat
  (0x0A ≤ code && code ≤ 0x0D) || (0x1C ≤ code && code ≤ 0x1E) ||
    code = 0x85 || code = 0x2028 || code = 0x2029

/-- The first of the lines of a text; an empty text has no line. -/
def firstLine (text : List Char) : Option (List Char) :=
  if text = [] then none
  else some (text.takeWhile (fun char => !isLineBreak char))

/-- The text without the white space behind it. -/
def rstrip (text : List Char) : List Char :=
  (text.reverse.dropWhile isSpace).reverse

/-- The text without the white space around it. -/
def strip (text : List Char) : List Char :=
  rstrip (text.dropWhile isSpace)

def isDigit (text : List Char) : Bool :=
  text ≠ [] && text.all Char.isDigit

/-- The integer that a text of digits writes. -/
def int (text : List Char) : Nat := Text.digitsValue text

theorem isSpace_of_isDigit {char : Char} (digit : char.isDigit = true) :
    isSpace char = false := by
  have range := Text.isDigit_range digit
  simp only [isSpace, Text.isWhitespace, Bool.or_eq_false_iff,
    Bool.and_eq_false_iff, decide_eq_false_iff_not]
  omega

theorem isLineBreak_of_isDigit {char : Char} (digit : char.isDigit = true) :
    isLineBreak char = false := by
  have range := Text.isDigit_range digit
  simp only [isLineBreak, Bool.or_eq_false_iff, Bool.and_eq_false_iff,
    decide_eq_false_iff_not]
  omega

theorem isDigit_eq_true {text : List Char} :
    isDigit text = true ↔
      text ≠ [] ∧ ∀ char ∈ text, char.isDigit = true := by
  simp [isDigit]

/-- Nothing is taken from behind a character that is no white space. -/
theorem rstrip_append {first more : List Char} {last : Char}
    (ends : first.getLast? = some last) (solid : isSpace last = false) :
    rstrip (first ++ more) = first ++ rstrip more := by
  obtain ⟨before, same⟩ := List.getLast?_eq_some_iff.mp ends
  have kept : first.reverse.dropWhile isSpace = first.reverse := by
    rw [same, List.reverse_append]
    change List.dropWhile isSpace (last :: before.reverse) = _
    rw [List.dropWhile_cons_of_neg (by rw [solid]; decide)]
    rfl
  unfold rstrip
  rw [List.reverse_append, List.dropWhile_append, kept]
  split
  · rename_i nothing
    rw [List.isEmpty_iff] at nothing
    rw [nothing, List.reverse_reverse, List.reverse_nil, List.append_nil]
  · rw [List.reverse_append, List.reverse_reverse]

theorem rstrip_initial (text : List Char) : rstrip text <+: text := by
  have suffix := List.dropWhile_suffix isSpace (l := text.reverse)
  obtain ⟨front, same⟩ := suffix
  have whole := congrArg List.reverse same
  rw [List.reverse_append, List.reverse_reverse] at whole
  exact ⟨front.reverse, whole⟩

/-- A text that begins with no white space is only stripped behind. -/
theorem strip_cons {first : Char} {rest : List Char}
    (solid : isSpace first = false) :
    strip (first :: rest) = rstrip (first :: rest) := by
  unfold strip
  rw [List.dropWhile_cons_of_neg (by rw [solid]; decide)]

theorem strip_of_solid {text : List Char}
    (solid : ∀ char ∈ text, isSpace char = false) : strip text = text := by
  cases text with
  | nil => rfl
  | cons first rest =>
      have nonempty : first :: rest ≠ [] := List.cons_ne_nil first rest
      have ends := List.getLast?_eq_some_getLast nonempty
      have kept : rstrip (first :: rest ++ []) = first :: rest ++ rstrip [] :=
        rstrip_append ends (solid _ (List.getLast_mem nonempty))
      rw [List.append_nil] at kept
      rw [strip_cons (solid first List.mem_cons_self), kept]
      exact List.append_nil _

/-- Before a break, or without one, a line is all of the text. -/
theorem firstLine_append {line rest : List Char} (nonempty : line ≠ [])
    (whole : ∀ char ∈ line, isLineBreak char = false) :
    firstLine (line ++ rest) =
      some (line ++ rest.takeWhile (fun char => !isLineBreak char)) := by
  unfold firstLine
  rw [if_neg (List.append_ne_nil_of_left_ne_nil nonempty rest)]
  rw [List.takeWhile_append_of_pos]
  intro char member
  rw [whole char member]
  rfl

end Python

end Foundation
