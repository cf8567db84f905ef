/-
The lines of a text, and white space in its lines.
-/

import OxideWorkloads.Foundation.TextSplits
import OxideWorkloads.Foundation.Words

namespace Foundation.Text

/-- The lines after the start of one.  A line that the end of the text closes
keeps a carriage return. -/
def scanLines : List Char → List Char → List String
  | current, [] => if current = [] then [] else [String.ofList current]
  | current, char :: rest =>
      if char = '\n' then
        stripReturn (String.ofList current) :: scanLines [] rest
      else scanLines (current ++ [char]) rest

def lines (text : String) : List String := scanLines [] text.toList

/-- The words of a text, between white space. -/
def splitWhitespace (text : String) : List (List Char) :=
  Words.words isWhitespace text.toList

theorem scanLines_newline (current text rest : List Char) :
    scanLines current (text ++ '\n' :: rest) =
      scanLines current (text ++ ['\n']) ++ scanLines [] rest := by
  induction text generalizing current with
  | nil => rfl
  | cons char text ih =>
      rw [List.cons_append, List.cons_append, scanLines, scanLines]
      split
      · rw [ih, List.cons_append]
      · exact ih _

theorem scanLines_line (current : List Char) {line : List Char}
    (oneLine : '\n' ∉ line) :
    scanLines current (line ++ ['\n']) =
      [stripReturn (String.ofList (current ++ line))] := by
  induction line generalizing current with
  | nil =>
      rw [List.append_nil]
      rfl
  | cons char rest ih =>
      rw [List.mem_cons, not_or] at oneLine
      rw [List.cons_append, scanLines, if_neg (Ne.symm oneLine.1),
        ih _ oneLine.2, List.append_assoc, List.singleton_append]

/-- The last line of a text that ends with a newline. -/
theorem lines_append_line (before : String) {line : String}
    (oneLine : '\n' ∉ line.toList) :
    lines (before ++ "\n" ++ line ++ "\n") =
      lines (before ++ "\n") ++ [stripReturn line] := by
  have newline : "\n".toList = ['\n'] := rfl
  unfold lines
  rw [String.toList_append, String.toList_append, String.toList_append,
    newline, List.append_assoc, List.append_assoc, List.singleton_append,
    scanLines_newline, scanLines_line [] oneLine, List.nil_append,
    String.ofList_toList]

theorem splitWhitespace_stripReturn (line : String) :
    splitWhitespace (stripReturn line) = splitWhitespace line := by
  unfold stripReturn
  cases stripped : stripSuffix line "\r" with
  | none => rfl
  | some start =>
      have whole := stripSuffix_eq_some.mp stripped
      have carriage : "\r".toList = ['\r'] := rfl
      rw [whole, Option.getD_some]
      unfold splitWhitespace
      rw [String.toList_append, carriage,
        Words.words_separated (by decide), Words.words_nil, List.append_nil]

/-- A text is blank exactly when it has no words. -/
theorem isBlank_eq_true {text : String} :
    isBlank text = true ↔ splitWhitespace text = [] := by
  unfold isBlank splitWhitespace
  rw [List.all_eq_true]
  constructor
  · exact Words.words_blank
  · exact Words.blank_of_words

end Foundation.Text
