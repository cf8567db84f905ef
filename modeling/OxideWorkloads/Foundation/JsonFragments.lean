/-
Unfinished JSON texts.

A writer that is interrupted leaves the beginning of a record behind, and the
next writer puts its own record right after it.  The facts here say that such
remains are never read as a document again: a strict beginning of an object is
stuck, and so is anything stuck or finished that is followed by the beginning
of a further object.
-/

import OxideWorkloads.Foundation.JsonGrammar

namespace Foundation

namespace JsonGrammar

open Json

/-! ### Stuck texts -/

/-- Every container the text has opened is not closed again, or the grammar
has rejected the text already. -/
def Stuck (text : List UInt8) : Prop :=
  ∀ state, run start text = some state → state.2 ≠ []

theorem Stuck.not_accepted {text : List UInt8} (stuck : Stuck text) :
    accepts text = false := by
  unfold accepts
  cases reaches : run start text with
  | none => rfl
  | some state =>
      rcases state with ⟨mode, stack⟩
      have opened : stack ≠ [] := stuck _ reaches
      cases stack with
      | nil => exact absurd rfl opened
      | cons frame rest => cases mode <;> rfl

theorem Stuck.ne_nil {text : List UInt8} (stuck : Stuck text) : text ≠ [] := by
  rintro rfl
  exact stuck start rfl rfl

/-- The text of one object whose first key begins like a word, ended by its
closing brace.  `body` is the text after the opening brace and quote. -/
structure ObjectText (text : List UInt8) : Prop where
  opens : ∃ letter body,
    text = 0x7B :: 0x22 :: letter :: body ∧ isScalarByte letter = true
  whole : accepts text = true
  closes : ∃ inner, text = inner ++ [0x7D]

namespace ObjectText

variable {text : List UInt8}

theorem run_take (object : ObjectText text) (count : Nat) :
    ∃ state, run start (text.take count) = some state := by
  have whole := object.whole
  unfold accepts at whole
  rw [← List.take_append_drop count text, run_append] at whole
  cases reaches : run start (text.take count) with
  | none =>
      rw [reaches] at whole
      cases whole
  | some state => exact ⟨state, rfl⟩

/-- The end of the text is a closing brace, which is not white space. -/
theorem drop_not_space (object : ObjectText text) {count : Nat}
    (strict : count < text.length) :
    (text.drop count).all isSpace = false := by
  obtain ⟨inner, shape⟩ := object.closes
  have bound : count ≤ inner.length := by
    have length : text.length = inner.length + 1 := by simp [shape]
    omega
  rw [shape, List.drop_append_of_le_length bound, List.all_append]
  have brace : List.all [(0x7D : UInt8)] isSpace = false := by decide
  rw [brace, Bool.and_false]

/-- A nonempty strict beginning of an object leaves a container open. -/
theorem stuck_take (object : ObjectText text) {count : Nat}
    (positive : 0 < count) (strict : count < text.length) :
    Stuck (text.take count) := by
  intro state reaches empty
  have whole := object.whole
  unfold accepts at whole
  rw [← List.take_append_drop count text,
    run_append_of_eq reaches] at whole
  obtain ⟨letter, body, shape, _⟩ := object.opens
  have afterBrace : run (.objectStart, [.object])
      ((0x22 :: letter :: body).take (count - 1)) = some state := by
    rw [← reaches, shape]
    cases count with
    | zero => omega
    | succ fewer => rfl
  have begins : Closed (.objectStart, [.object]) :=
    fun noContainer => by cases noContainer
  have closed : Closed state := run_closed begins afterBrace
  have isNext : state = (.next, []) := Prod.ext (closed empty) empty
  subst isNext
  cases ending : run (.next, []) (text.drop count) with
  | none =>
      rw [ending] at whole
      cases whole
  | some following =>
      have space := run_next_empty ending
      rw [object.drop_not_space strict] at space
      cases space

/-- Inside a string the brace and the quote are read as text and as its end,
and the letter of the key fits nowhere. -/
theorem run_inString (object : ObjectText text) (isKey : Bool)
    (stack : List Frame) (count : Nat) {state : State}
    (reaches : run (.string isKey, stack) (text.take count) = some state) :
    state.2 = stack := by
  obtain ⟨letter, body, shape, scalar⟩ := object.opens
  have brace : step (.string isKey, stack) 0x7B =
      some (.string isKey, stack) := step_literal (by decide)
  have quote : step (.string isKey, stack) 0x22 =
      some (afterString isKey, stack) := rfl
  have notSpace : isSpace letter = false := by
    cases space : isSpace letter with
    | false => rfl
    | true =>
        rw [isScalarByte_of_isSpace space] at scalar
        cases scalar
  have rejects : step (afterString isKey, stack) letter = none := by
    have notByte : ∀ byte : UInt8, isScalarByte byte = false →
        letter ≠ byte := by
      rintro byte plainByte rfl
      rw [plainByte] at scalar
      cases scalar
    have notColon := notByte 0x3A (by decide)
    have notComma := notByte 0x2C (by decide)
    have notBracket := notByte 0x5D (by decide)
    have notBrace := notByte 0x7D (by decide)
    cases isKey with
    | true => simp [afterString, step, notSpace, notColon]
    | false =>
        cases stack with
        | nil => simp [afterString, step, afterValue, notSpace]
        | cons frame rest =>
            cases frame <;>
              simp [afterString, step, afterValue, notSpace, notComma,
                notBracket, notBrace]
  rw [shape] at reaches
  rcases count with _ | _ | _ | more
  · cases reaches
    rfl
  · simp only [Nat.zero_add, List.take_succ_cons, List.take_zero, run,
      brace] at reaches
    cases reaches
    rfl
  · simp only [Nat.zero_add, List.take_succ_cons, List.take_zero, run, brace,
      quote] at reaches
    cases reaches
    rfl
  · simp only [List.take_succ_cons, run, brace, quote, rejects] at reaches
    cases reaches

/-- Where a value may begin, the beginning of an object nests inside the open
containers. -/
theorem run_nested (object : ObjectText text) {mode : Mode}
    {stack : List Frame}
    (opens : step (mode, stack) 0x7B = some (.objectStart, .object :: stack))
    (count : Nat) {state : State} (positive : 0 < count)
    (reaches : run (mode, stack) (text.take count) = some state) :
    ∃ inner, state.2 = inner ++ stack := by
  obtain ⟨⟨following, inner⟩, alone⟩ := object.run_take count
  obtain ⟨letter, body, shape, _⟩ := object.opens
  cases count with
  | zero => omega
  | succ fewer =>
      have opensAlone : step start 0x7B = some (.objectStart, [.object]) :=
        rfl
      rw [shape] at alone reaches
      simp only [List.take_succ_cons, run, opensAlone] at alone
      simp only [List.take_succ_cons, run, opens] at reaches
      have framed := run_frame stack alone
      simp only [List.cons_append, List.nil_append] at framed
      rw [framed] at reaches
      cases reaches
      exact ⟨inner, rfl⟩

/-- A stuck text stays stuck when the beginning of an object follows. -/
theorem stuck_append (object : ObjectText text) {remains : List UInt8}
    (stuck : Stuck remains) (count : Nat) :
    Stuck (remains ++ text.take count) := by
  intro state reaches
  rw [run_append] at reaches
  cases count with
  | zero =>
      cases before : run start remains with
      | none =>
          rw [before] at reaches
          cases reaches
      | some middle =>
          rw [before] at reaches
          cases reaches
          exact stuck _ before
  | succ fewer =>
      cases before : run start remains with
      | none =>
          rw [before] at reaches
          cases reaches
      | some middle =>
          rw [before] at reaches
          rcases middle with ⟨mode, stack⟩
          have opened : stack ≠ [] := stuck _ before
          have refused : step (mode, stack) 0x7B = none → False := by
            intro rejects
            obtain ⟨letter, body, shape, _⟩ := object.opens
            rw [shape] at reaches
            simp only [Option.bind_some, List.take_succ_cons, run,
              rejects] at reaches
            cases reaches
          have nests : step (mode, stack) 0x7B =
              some (.objectStart, .object :: stack) → state.2 ≠ [] := by
            intro opens
            obtain ⟨inner, frames⟩ :=
              object.run_nested opens (fewer + 1) (by omega) reaches
            rw [frames]
            exact List.append_ne_nil_of_right_ne_nil _ opened
          cases mode with
          | value => exact nests rfl
          | arrayStart => exact nests rfl
          | string isKey =>
              rw [object.run_inString isKey stack _ reaches]
              exact opened
          | next =>
              cases stack with
              | nil => exact absurd rfl opened
              | cons frame rest => cases frame <;> exact (refused rfl).elim
          | scalar =>
              cases stack with
              | nil => exact absurd rfl opened
              | cons frame rest => cases frame <;> exact (refused rfl).elim
          | _ => exact (refused rfl).elim

/-- Nothing but white space may follow a finished document. -/
theorem stuck_accepted (object : ObjectText text) {document : List UInt8}
    (finished : accepts document = true) {count : Nat}
    (positive : 0 < count) : Stuck (document ++ text.take count) := by
  intro state reaches
  obtain ⟨letter, body, shape, _⟩ := object.opens
  unfold accepts at finished
  rw [run_append] at reaches
  cases before : run start document with
  | none =>
      rw [before] at finished
      cases finished
  | some middle =>
      rw [before] at finished reaches
      rcases middle with ⟨mode, stack⟩
      cases count with
      | zero => omega
      | succ fewer =>
          rw [shape] at reaches
          cases stack with
          | cons frame rest => cases mode <;> cases finished
          | nil =>
              cases mode with
              | next =>
                  simp [run, step, afterValue, isSpace] at reaches
              | scalar =>
                  simp [run, step, afterValue, isSpace,
                    isScalarByte] at reaches
              | _ => cases finished

end ObjectText

/-! ### Compact objects -/

theorem accepts_render (layout : Layout) (document : Json) {limit : Nat}
    (isPlain : document.plain limit = true) {trailing : List UInt8}
    (space : trailing.all isSpace = true) :
    accepts (render layout 0 document ++ trailing) = true := by
  obtain ⟨state, reaches, settled⟩ :=
    plain_renders layout document limit isPlain 0 []
  obtain ⟨following, ends, endSettled⟩ := settled.run_space space
  unfold accepts start
  rw [run_append_of_eq reaches, ends]
  rcases endSettled with rfl | rfl <;> rfl

/-- A compact object with a key that begins like a word. -/
theorem objectText_compact {limit : Nat} {first : Char} {key : String}
    {value : Json} {rest : List (String × Json)}
    (begins : key.toList.head? = some first)
    (word : escapeChar first = [UInt8.ofNat first.toNat] ∧
      isScalarByte (UInt8.ofNat first.toNat) = true)
    (isPlain : (Json.object ((key, value) :: rest)).plain limit = true) :
    ObjectText (compact (.object ((key, value) :: rest))) := by
  refine ⟨?_, ?_, ?_⟩
  · cases shape : key.toList with
    | nil =>
        rw [shape] at begins
        cases begins
    | cons char more =>
        rw [shape] at begins
        cases begins
        refine ⟨UInt8.ofNat first.toNat, more.flatMap escapeChar ++
          0x22 :: 0x3A :: (render compactLayout 1 value ++
            renderMembers compactLayout 1 rest ++ [0x7D]), ?_, word.2⟩
        simp [compact, render, compactLayout, renderString, shape, word.1]
  · have whole := accepts_render compactLayout _ isPlain
      (show ([] : List UInt8).all isSpace = true from rfl)
    rw [List.append_nil] at whole
    exact whole
  · refine ⟨0x7B :: (renderString key ++ 0x3A ::
      (render compactLayout 1 value ++
        renderMembers compactLayout 1 rest)), ?_⟩
    simp [compact, render, compactLayout]

/-! ### Bytes of a compact text -/

/-- Bytes that never break a line. -/
def isLineByte (byte : UInt8) : Bool := byte ≠ 0x0A

theorem isLineByte_of_literal {byte : UInt8}
    (literal : isLiteralByte byte = true) : isLineByte byte = true := by
  simp only [isLiteralByte, Bool.and_eq_true, decide_eq_true_eq,
    Bool.not_eq_true', decide_eq_false_iff_not, ne_eq] at literal
  simp only [isLineByte, ne_eq, decide_eq_true_eq]
  rintro rfl
  exact literal.2 (by decide)

theorem isLineByte_of_scalar {byte : UInt8}
    (scalar : isScalarByte byte = true) : isLineByte byte = true := by
  simp only [isLineByte, ne_eq, decide_eq_true_eq]
  rintro rfl
  revert scalar
  decide

theorem isLineByte_hexDigit : ∀ value < 16,
    isLineByte (hexDigit value) = true := by
  decide

theorem escapeChar_line (char : Char) :
    (escapeChar char).all isLineByte = true := by
  unfold escapeChar
  simp only
  split_ifs with quote backslash back tab line feed return_ control
  · rfl
  · rfl
  · rfl
  · rfl
  · rfl
  · rfl
  · rfl
  · have high := isLineByte_hexDigit (char.toNat / 16) (by omega)
    have low := isLineByte_hexDigit (char.toNat % 16) (by omega)
    have fixed : ([0x5C, 0x75, 0x30, 0x30] : List UInt8).all isLineByte =
        true := by decide
    simp only [List.all_cons, List.all_nil, Bool.and_true,
      Bool.and_eq_true] at fixed ⊢
    exact ⟨fixed.1, fixed.2.1, fixed.2.2.1, fixed.2.2.2, high, low⟩
  · have literal : (String.utf8EncodeChar char).all isLiteralByte = true :=
      utf8EncodeChar_literal (by omega) quote backslash
    rw [List.all_eq_true] at literal ⊢
    exact fun byte member => isLineByte_of_literal (literal byte member)

theorem renderString_line (text : String) :
    (renderString text).all isLineByte = true := by
  have body : (text.toList.flatMap escapeChar).all isLineByte = true := by
    rw [List.all_flatMap, List.all_eq_true]
    exact fun char _ => escapeChar_line char
  have quote : isLineByte 0x22 = true := by decide
  simp only [renderString, List.cons_append, List.all_cons, List.all_append,
    List.all_nil, body, quote, Bool.and_self]

theorem line_tokens :
    TokenProperty compactLayout (fun bytes => bytes.all isLineByte = true) where
  nil := rfl
  append := fun first second holdsFirst holdsSecond => by
    simp only [List.all_append, holdsFirst, holdsSecond, Bool.and_self]
  gap := fun _ => rfl
  afterColon := rfl
  bracket := fun byte member => by
    simp only [List.mem_cons, List.not_mem_nil, or_false] at member
    rcases member with rfl | rfl | rfl | rfl | rfl | rfl <;> decide
  null := by decide
  yes := by decide
  no := by decide
  integer := fun value => by
    rw [List.all_eq_true]
    intro byte member
    obtain ⟨char, inChars, rfl⟩ := List.mem_map.mp member
    exact isLineByte_of_scalar (integerChars_scalar value char inChars)
  string := renderString_line

/-- A compact text is one line. -/
theorem compact_line {document : Json} {limit : Nat}
    (isPlain : document.plain limit = true) :
    (compact document).all isLineByte = true :=
  line_tokens.render document limit isPlain 0

end JsonGrammar

end Foundation
