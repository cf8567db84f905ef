/-
The JSON grammar as a byte automaton with a stack of open containers.

The automaton recognizes at least the texts of RFC 8259: strings, escapes,
separators and the nesting of containers are exact, while any run of letters,
digits, signs and points is taken for a number or a literal.  A reader that
accepts only JSON therefore accepts only texts that the automaton accepts.

The facts about unfinished texts are the ones a log of records needs: a
nonempty strict prefix of an object is never a document, and neither is such a
prefix, or a whole document, followed by the beginning of a further object.
-/

import OxideWorkloads.Foundation.Json

namespace Foundation

namespace JsonGrammar

open Json

/-- The containers that are open, innermost first. -/
inductive Frame where
  | array
  | object
  deriving DecidableEq, Repr

/-- What the automaton expects next. -/
inductive Mode where
  | value
  | arrayStart
  | objectStart
  | key
  | colon
  | next
  | scalar
  | string (isKey : Bool)
  | escape (isKey : Bool)
  | hex (isKey : Bool) (remaining : Nat)
  deriving DecidableEq, Repr

abbrev State := Mode × List Frame

/-- A byte that may stand in a number, `true`, `false` or `null`. -/
def isScalarByte (byte : UInt8) : Bool :=
  (0x30 ≤ byte && byte ≤ 0x39) || (0x61 ≤ byte && byte ≤ 0x7A) ||
    (0x41 ≤ byte && byte ≤ 0x5A) || byte = 0x2B || byte = 0x2D ||
    byte = 0x2E

def isHexByte (byte : UInt8) : Bool :=
  (0x30 ≤ byte && byte ≤ 0x39) || (0x61 ≤ byte && byte ≤ 0x66) ||
    (0x41 ≤ byte && byte ≤ 0x46)

/-- A byte that may follow the backslash of a one-character escape. -/
def isEscapeByte (byte : UInt8) : Bool :=
  byte = 0x22 || byte = 0x5C || byte = 0x2F || byte = 0x62 ||
    byte = 0x66 || byte = 0x6E || byte = 0x72 || byte = 0x74

/-- The first byte of a value. -/
def openValue (stack : List Frame) (byte : UInt8) : Option State :=
  if byte = 0x5B then some (.arrayStart, .array :: stack)
  else if byte = 0x7B then some (.objectStart, .object :: stack)
  else if byte = 0x22 then some (.string false, stack)
  else if isScalarByte byte then some (.scalar, stack)
  else none

/-- A byte after a finished value. -/
def afterValue (stack : List Frame) (byte : UInt8) : Option State :=
  if isSpace byte then some (.next, stack)
  else
    match stack with
    | [] => none
    | .array :: outer =>
        if byte = 0x2C then some (.value, stack)
        else if byte = 0x5D then some (.next, outer)
        else none
    | .object :: outer =>
        if byte = 0x2C then some (.key, stack)
        else if byte = 0x7D then some (.next, outer)
        else none

/-- Where a finished string leads. -/
def afterString (isKey : Bool) : Mode :=
  if isKey then .colon else .next

def step : State → UInt8 → Option State
  | (.value, stack), byte =>
      if isSpace byte then some (.value, stack) else openValue stack byte
  | (.arrayStart, stack), byte =>
      if isSpace byte then some (.arrayStart, stack)
      else if byte = 0x5D then
        match stack with
        | .array :: outer => some (.next, outer)
        | _ => none
      else openValue stack byte
  | (.objectStart, stack), byte =>
      if isSpace byte then some (.objectStart, stack)
      else if byte = 0x7D then
        match stack with
        | .object :: outer => some (.next, outer)
        | _ => none
      else if byte = 0x22 then some (.string true, stack)
      else none
  | (.key, stack), byte =>
      if isSpace byte then some (.key, stack)
      else if byte = 0x22 then some (.string true, stack)
      else none
  | (.colon, stack), byte =>
      if isSpace byte then some (.colon, stack)
      else if byte = 0x3A then some (.value, stack)
      else none
  | (.next, stack), byte => afterValue stack byte
  | (.scalar, stack), byte =>
      if isScalarByte byte then some (.scalar, stack)
      else afterValue stack byte
  | (.string isKey, stack), byte =>
      if byte = 0x22 then some (afterString isKey, stack)
      else if byte = 0x5C then some (.escape isKey, stack)
      else if byte < 0x20 then none
      else some (.string isKey, stack)
  | (.escape isKey, stack), byte =>
      if isEscapeByte byte then some (.string isKey, stack)
      else if byte = 0x75 then some (.hex isKey 3, stack)
      else none
  | (.hex isKey remaining, stack), byte =>
      if isHexByte byte then
        match remaining with
        | 0 => some (.string isKey, stack)
        | fewer + 1 => some (.hex isKey fewer, stack)
      else none

def run (state : State) : List UInt8 → Option State
  | [] => some state
  | byte :: rest =>
      match step state byte with
      | none => none
      | some following => run following rest

def start : State := (.value, [])

/-- A document may end here. -/
def isFinal : State → Bool
  | (.next, []) => true
  | (.scalar, []) => true
  | _ => false

/-- The bytes are one document. -/
def accepts (bytes : List UInt8) : Bool :=
  match run start bytes with
  | some state => isFinal state
  | none => false

-- The equations of the reader belong to the simp set of this module.
attribute [local simp] step run openValue afterValue

theorem run_append (state : State) (first second : List UInt8) :
    run state (first ++ second) =
      (run state first).bind (fun middle => run middle second) := by
  induction first generalizing state with
  | nil => rfl
  | cons byte rest ih =>
      simp only [List.cons_append, run]
      cases step state byte with
      | none => rfl
      | some following => exact ih following

theorem run_append_of_eq {state middle : State} {first : List UInt8}
    (reaches : run state first = some middle) (second : List UInt8) :
    run state (first ++ second) = run middle second := by
  rw [run_append, reaches]
  rfl

/-! ### Frames below the run are never touched -/

theorem openValue_frame {stack : List Frame} {byte : UInt8} {mode : Mode}
    {inner : List Frame} (outer : List Frame)
    (opens : openValue stack byte = some (mode, inner)) :
    openValue (stack ++ outer) byte = some (mode, inner ++ outer) := by
  unfold openValue at opens ⊢
  split_ifs at opens ⊢ <;> cases opens <;> rfl

theorem afterValue_frame {stack : List Frame} {byte : UInt8} {mode : Mode}
    {inner : List Frame} (outer : List Frame)
    (moves : afterValue stack byte = some (mode, inner)) :
    afterValue (stack ++ outer) byte = some (mode, inner ++ outer) := by
  cases stack with
  | nil =>
      unfold afterValue at moves
      split_ifs at moves with space
      cases moves
      simp [afterValue, space]
  | cons frame rest =>
      cases frame <;>
        · simp only [afterValue, List.cons_append] at moves ⊢
          split_ifs at moves ⊢ <;> cases moves <;> rfl

theorem step_frame {mode following : Mode} {stack inner : List Frame}
    {byte : UInt8} (outer : List Frame)
    (steps : step (mode, stack) byte = some (following, inner)) :
    step (mode, stack ++ outer) byte = some (following, inner ++ outer) := by
  cases mode with
  | value =>
      simp only [step] at steps ⊢
      split_ifs at steps ⊢
      · cases steps
        rfl
      · exact openValue_frame outer steps
  | arrayStart =>
      simp only [step] at steps ⊢
      split_ifs at steps ⊢
      · cases steps
        rfl
      · cases stack with
        | nil => cases steps
        | cons frame rest => cases frame <;> cases steps; rfl
      · exact openValue_frame outer steps
  | objectStart =>
      simp only [step] at steps ⊢
      split_ifs at steps ⊢
      · cases steps
        rfl
      · cases stack with
        | nil => cases steps
        | cons frame rest => cases frame <;> cases steps; rfl
      · cases steps
        rfl
  | next => exact afterValue_frame outer steps
  | scalar =>
      simp only [step] at steps ⊢
      split_ifs at steps ⊢
      · cases steps
        rfl
      · exact afterValue_frame outer steps
  | hex isKey remaining =>
      simp only [step] at steps ⊢
      split_ifs at steps ⊢
      cases remaining <;> cases steps <;> rfl
  | _ =>
      simp only [step] at steps ⊢
      split_ifs at steps ⊢ <;> cases steps <;> rfl

theorem run_frame {state : State} {following : Mode} {inner : List Frame}
    {bytes : List UInt8} (outer : List Frame)
    (runs : run state bytes = some (following, inner)) :
    run (state.1, state.2 ++ outer) bytes =
      some (following, inner ++ outer) := by
  induction bytes generalizing state with
  | nil =>
      cases runs
      rfl
  | cons byte rest ih =>
      rcases state with ⟨mode, stack⟩
      simp only [run] at runs ⊢
      cases steps : step (mode, stack) byte with
      | none =>
          rw [steps] at runs
          cases runs
      | some middle =>
          rw [steps] at runs
          rw [step_frame outer steps]
          exact ih runs

/-! ### A closed top level takes only white space -/

/-- With no container open, the document is over. -/
def Closed (state : State) : Prop := state.2 = [] → state.1 = .next

theorem step_closed {state following : State} {byte : UInt8}
    (closed : Closed state) (steps : step state byte = some following) :
    Closed following := by
  rcases state with ⟨mode, stack⟩
  intro empty
  cases stack with
  | nil =>
      have isNext : mode = .next := closed rfl
      subst isNext
      simp only [step, afterValue] at steps
      split_ifs at steps
      cases steps
      rfl
  | cons frame rest =>
      cases mode <;>
        simp only [step, openValue, afterValue] at steps <;>
        (repeat' split at steps) <;>
        first
          | (cases steps; first | rfl | (simp at empty))
          | cases steps

theorem run_closed {state following : State} {bytes : List UInt8}
    (closed : Closed state) (runs : run state bytes = some following) :
    Closed following := by
  induction bytes generalizing state with
  | nil =>
      cases runs
      exact closed
  | cons byte rest ih =>
      simp only [run] at runs
      cases steps : step state byte with
      | none =>
          rw [steps] at runs
          cases runs
      | some middle =>
          rw [steps] at runs
          exact ih (step_closed closed steps) runs

theorem run_next_empty {bytes : List UInt8} {following : State}
    (runs : run (.next, []) bytes = some following) :
    bytes.all isSpace = true := by
  induction bytes with
  | nil => rfl
  | cons byte rest ih =>
      simp only [run, step, afterValue] at runs
      by_cases space : isSpace byte = true
      · rw [if_pos space] at runs
        simp only [List.all_cons, space, Bool.true_and]
        exact ih runs
      · rw [if_neg space] at runs
        cases runs

/-! ### White space -/

theorem run_space {mode : Mode} {stack : List Frame} {bytes : List UInt8}
    (skips : ∀ byte, isSpace byte = true →
      step (mode, stack) byte = some (mode, stack))
    (space : bytes.all isSpace = true) :
    run (mode, stack) bytes = some (mode, stack) := by
  induction bytes with
  | nil => rfl
  | cons byte rest ih =>
      simp only [List.all_cons, Bool.and_eq_true] at space
      simp only [run, skips byte space.1]
      exact ih space.2

theorem isScalarByte_of_isSpace {byte : UInt8} (space : isSpace byte = true) :
    isScalarByte byte = false := by
  simp only [isSpace, Bool.or_eq_true, decide_eq_true_eq] at space
  rcases space with ((rfl | rfl) | rfl) | rfl <;> decide

/-- A value has been read completely; a number may still be extended. -/
def Settled (stack : List Frame) (state : State) : Prop :=
  state = (.next, stack) ∨ state = (.scalar, stack)

theorem Settled.step {stack : List Frame} {state : State} {byte : UInt8}
    (settled : Settled stack state) (plainByte : isScalarByte byte = false) :
    JsonGrammar.step state byte = afterValue stack byte := by
  rcases settled with rfl | rfl
  · rfl
  · simp [JsonGrammar.step, plainByte]

theorem Settled.run_space {stack : List Frame} {state : State}
    {bytes : List UInt8} (settled : Settled stack state)
    (space : bytes.all isSpace = true) :
    ∃ following, run state bytes = some following ∧
      Settled stack following := by
  cases bytes with
  | nil => exact ⟨state, rfl, settled⟩
  | cons byte rest =>
      simp only [List.all_cons, Bool.and_eq_true] at space
      refine ⟨(.next, stack), ?_, Or.inl rfl⟩
      simp only [run,
        settled.step (isScalarByte_of_isSpace space.1), afterValue,
        space.1, if_true]
      exact JsonGrammar.run_space
        (fun blank isBlank => by simp [JsonGrammar.step, afterValue, isBlank])
        space.2

/-! ### Strings -/

/-- A byte that stands for itself inside a string. -/
def isLiteralByte (byte : UInt8) : Bool :=
  byte ≠ 0x22 && byte ≠ 0x5C && !(byte < 0x20)

theorem isLiteralByte_of_high {value : Nat} (low : 0x80 ≤ value)
    (high : value < 256) : isLiteralByte (UInt8.ofNat value) = true := by
  have exact_ : (UInt8.ofNat value).toNat = value := by
    simp [Nat.mod_eq_of_lt high]
  simp only [isLiteralByte, Bool.and_eq_true, decide_eq_true_eq,
    Bool.not_eq_true', decide_eq_false_iff_not, ne_eq, UInt8.lt_iff_toNat_lt,
    ← UInt8.toNat_inj, exact_]
  refine ⟨⟨?_, ?_⟩, ?_⟩ <;> simp <;> omega

theorem utf8EncodeChar_ascii {char : Char} (ascii : char.toNat < 0x80) :
    String.utf8EncodeChar char = [UInt8.ofNat char.toNat] := by
  have bound : char.val.toNat ≤ 0x7F := Nat.le_of_lt_succ ascii
  unfold String.utf8EncodeChar
  simp only [bound, if_true]
  rfl

theorem utf8EncodeChar_literal {char : Char} (printable : 0x20 ≤ char.toNat)
    (notQuote : char.toNat ≠ 0x22) (notEscape : char.toNat ≠ 0x5C) :
    (String.utf8EncodeChar char).all isLiteralByte = true := by
  by_cases ascii : char.toNat < 0x80
  · rw [utf8EncodeChar_ascii ascii]
    have exact_ : (UInt8.ofNat char.toNat).toNat = char.toNat := by
      simp only [UInt8.toNat_ofNat']
      omega
    simp only [List.all_cons, List.all_nil, Bool.and_true, isLiteralByte,
      Bool.and_eq_true, decide_eq_true_eq, Bool.not_eq_true',
      decide_eq_false_iff_not, ne_eq, UInt8.lt_iff_toNat_lt,
      ← UInt8.toNat_inj, exact_]
    refine ⟨⟨?_, ?_⟩, ?_⟩ <;> simp <;> omega
  · have notAscii : ¬char.val.toNat ≤ 0x7F := by
      intro small
      exact ascii (Nat.lt_succ_of_le small)
    rw [List.all_eq_true]
    intro byte member
    unfold String.utf8EncodeChar at member
    simp only [notAscii, if_false] at member
    split at member
    · simp only [List.mem_cons, List.not_mem_nil, or_false] at member
      rcases member with rfl | rfl <;> apply isLiteralByte_of_high <;> omega
    · split at member
      · simp only [List.mem_cons, List.not_mem_nil, or_false] at member
        rcases member with rfl | rfl | rfl <;>
          apply isLiteralByte_of_high <;> omega
      · simp only [List.mem_cons, List.not_mem_nil, or_false] at member
        rcases member with rfl | rfl | rfl | rfl <;>
          apply isLiteralByte_of_high <;> omega

theorem step_literal {isKey : Bool} {stack : List Frame} {byte : UInt8}
    (literal : isLiteralByte byte = true) :
    step (.string isKey, stack) byte = some (.string isKey, stack) := by
  simp only [isLiteralByte, Bool.and_eq_true, decide_eq_true_eq,
    Bool.not_eq_true', decide_eq_false_iff_not, ne_eq] at literal
  simp [step, literal.1.1, literal.1.2, literal.2]

theorem run_literal {isKey : Bool} {stack : List Frame} {bytes : List UInt8}
    (literal : bytes.all isLiteralByte = true) :
    run (.string isKey, stack) bytes = some (.string isKey, stack) := by
  induction bytes with
  | nil => rfl
  | cons byte rest ih =>
      simp only [List.all_cons, Bool.and_eq_true] at literal
      simp only [run, step_literal literal.1]
      exact ih literal.2

theorem isHexByte_hexDigit : ∀ value < 16,
    isHexByte (hexDigit value) = true := by
  decide

theorem run_escapeChar (isKey : Bool) (stack : List Frame) (char : Char) :
    run (.string isKey, stack) (escapeChar char) =
      some (.string isKey, stack) := by
  unfold escapeChar
  simp only
  split_ifs with quote backslash back tab line feed return_ control
  · rfl
  · rfl
  · rfl
  · rfl
  · rfl
  · rfl
  · rfl
  · have high := isHexByte_hexDigit (char.toNat / 16) (by omega)
    have low := isHexByte_hexDigit (char.toNat % 16) (by omega)
    have zero : isHexByte 0x30 = true := by decide
    simp [run, step, isEscapeByte, high, low, zero]
  · exact run_literal (utf8EncodeChar_literal (by omega) quote backslash)

theorem run_escapedText (isKey : Bool) (stack : List Frame)
    (chars : List Char) :
    run (.string isKey, stack) (chars.flatMap escapeChar) =
      some (.string isKey, stack) := by
  induction chars with
  | nil => rfl
  | cons char rest ih =>
      rw [List.flatMap_cons,
        run_append_of_eq (run_escapeChar isKey stack char)]
      exact ih

/-- A rendered string, read after its opening quote. -/
theorem run_renderString_tail (isKey : Bool) (stack : List Frame)
    (text : String) :
    run (.string isKey, stack) (text.toList.flatMap escapeChar ++ [0x22]) =
      some (afterString isKey, stack) := by
  rw [run_append_of_eq (run_escapedText isKey stack text.toList)]
  rfl

/-! ### Rendered documents are accepted -/

theorem integerChars_scalar (value : Int) :
    ∀ char ∈ integerChars value,
      isScalarByte (UInt8.ofNat char.toNat) = true := by
  have digit : ∀ char ∈ Nat.toDigits 10 value.natAbs,
      isScalarByte (UInt8.ofNat char.toNat) = true := by
    intro char member
    have isDigit := Nat.isDigit_of_mem_toDigits (by omega) (by omega) member
    simp only [Char.isDigit, Bool.and_eq_true, decide_eq_true_eq] at isDigit
    have low : 0x30 ≤ char.toNat := UInt32.le_iff_toNat_le.mp isDigit.1
    have high : char.toNat ≤ 0x39 := UInt32.le_iff_toNat_le.mp isDigit.2
    have exact_ : (UInt8.ofNat char.toNat).toNat = char.toNat := by
      simp only [UInt8.toNat_ofNat']
      omega
    simp only [isScalarByte, Bool.or_eq_true, Bool.and_eq_true,
      decide_eq_true_eq, UInt8.le_iff_toNat_le, exact_]
    exact Or.inl (Or.inl (Or.inl (Or.inl (Or.inl ⟨low, high⟩))))
  intro char member
  unfold integerChars at member
  split at member
  · rcases List.mem_cons.mp member with rfl | inDigits
    · decide
    · exact digit char inDigits
  · exact digit char member

theorem integerChars_ne_nil (value : Int) : integerChars value ≠ [] := by
  unfold integerChars
  split
  · exact List.cons_ne_nil _ _
  · exact Nat.toDigits_ne_nil

theorem isScalarByte_opens {byte : UInt8} (scalar : isScalarByte byte = true)
    (stack : List Frame) :
    step (.value, stack) byte = some (.scalar, stack) := by
  have notSpace : isSpace byte = false := by
    cases space : isSpace byte with
    | false => rfl
    | true =>
        rw [isScalarByte_of_isSpace space] at scalar
        cases scalar
  have notBracket : byte ≠ 0x5B := by
    rintro rfl
    revert scalar
    decide
  have notBrace : byte ≠ 0x7B := by
    rintro rfl
    revert scalar
    decide
  have notQuote : byte ≠ 0x22 := by
    rintro rfl
    revert scalar
    decide
  simp [step, openValue, notSpace, notBracket, notBrace, notQuote, scalar]

theorem run_scalar {stack : List Frame} {bytes : List UInt8}
    (scalar : bytes.all isScalarByte = true) (nonempty : bytes ≠ []) :
    run (.value, stack) bytes = some (.scalar, stack) := by
  have more : ∀ rest : List UInt8, rest.all isScalarByte = true →
      run (.scalar, stack) rest = some (.scalar, stack) := by
    intro rest
    induction rest with
    | nil =>
        intro _
        rfl
    | cons byte rest ih =>
        intro allScalar
        simp only [List.all_cons, Bool.and_eq_true] at allScalar
        simp only [run, step, allScalar.1, if_true]
        exact ih allScalar.2
  cases bytes with
  | nil => exact absurd rfl nonempty
  | cons byte rest =>
      simp only [List.all_cons, Bool.and_eq_true] at scalar
      simp only [run, isScalarByte_opens scalar.1]
      exact more rest scalar.2

/-- A rendered document does not begin like white space or like the end of an
array. -/
theorem render_head (layout : Layout) (depth limit : Nat) (document : Json)
    (isPlain : document.plain limit = true) :
    ∃ byte rest, render layout depth document = byte :: rest ∧
      isSpace byte = false ∧ byte ≠ 0x5D := by
  cases document with
  | null => exact ⟨_, _, rfl, by decide, by decide⟩
  | bool value => cases value <;> exact ⟨_, _, rfl, by decide, by decide⟩
  | integer value =>
      have scalar := integerChars_scalar value
      cases shape : integerChars value with
      | nil => exact absurd shape (integerChars_ne_nil value)
      | cons char rest =>
          rw [shape] at scalar
          have first := scalar char List.mem_cons_self
          refine ⟨UInt8.ofNat char.toNat, asciiBytes rest, ?_, ?_, ?_⟩
          · simp [render, asciiBytes, shape]
          · cases space : isSpace (UInt8.ofNat char.toNat) with
            | false => rfl
            | true =>
                rw [isScalarByte_of_isSpace space] at first
                cases first
          · intro same
            rw [same] at first
            revert first
            decide
  | float text => simp [plain] at isPlain
  | string text => exact ⟨_, _, rfl, by decide, by decide⟩
  | array items =>
      cases items with
      | nil => exact ⟨_, _, rfl, by decide, by decide⟩
      | cons first rest =>
          exact ⟨0x5B, _, by rw [render], by decide, by decide⟩
  | object members =>
      cases members with
      | nil => exact ⟨_, _, rfl, by decide, by decide⟩
      | cons first rest =>
          exact ⟨0x7B, _, by rw [render], by decide, by decide⟩

theorem run_arrayStart (layout : Layout) (depth limit : Nat)
    (document : Json) (isPlain : document.plain limit = true)
    (stack : List Frame) (more : List UInt8) :
    run (.arrayStart, stack) (render layout depth document ++ more) =
      run (.value, stack) (render layout depth document ++ more) := by
  obtain ⟨byte, rest, shape, notSpace, notBracket⟩ :=
    render_head layout depth limit document isPlain
  simp [shape, run, step, notSpace, notBracket]

theorem run_key {mode : Mode} (begins : mode = .objectStart ∨ mode = .key)
    (stack : List Frame) (text : String) (more : List UInt8) :
    run (mode, stack) (renderString text ++ more) =
      run (.colon, stack) more := by
  have tail := run_renderString_tail true stack text
  have opens : step (mode, stack) 0x22 = some (.string true, stack) := by
    rcases begins with rfl | rfl <;> rfl
  simp only [renderString, List.cons_append, run, opens]
  rw [run_append_of_eq tail]
  rfl

/-- A gap is skipped wherever a token is expected. -/
theorem run_gap {mode : Mode}
    (skips : mode = .value ∨ mode = .arrayStart ∨ mode = .objectStart ∨
      mode = .key)
    (stack : List Frame) {gap : List UInt8} (space : gap.all isSpace = true)
    (more : List UInt8) :
    run (mode, stack) (gap ++ more) = run (mode, stack) more := by
  rw [run_append, run_space _ space]
  · rfl
  · intro byte blank
    rcases skips with rfl | rfl | rfl | rfl <;> simp [step, blank]

/-- The colon of a member and the space after it. -/
theorem run_colon (layout : Layout) (stack : List Frame)
    (more : List UInt8) :
    run (.colon, stack) (0x3A :: (layout.afterColon ++ more)) =
      run (.value, stack) more := by
  have opens : step (.colon, stack) 0x3A = some (.value, stack) := rfl
  simp only [run, opens]
  exact run_gap (Or.inl rfl) stack layout.afterColonSpace more

/-- A document that renders, from a point where a value is expected, to a
settled state over the same open containers. -/
def Renders (layout : Layout) (document : Json) : Prop :=
  ∀ depth stack, ∃ state,
    run (.value, stack) (render layout depth document) = some state ∧
      Settled stack state

theorem run_renderItems (layout : Layout) (depth : Nat) (outer : List Frame)
    (items : List Json) (renders : ∀ item ∈ items, Renders layout item)
    {state : State} (settled : Settled (.array :: outer) state) :
    ∃ following, run state (renderItems layout depth items) =
        some following ∧ Settled (.array :: outer) following := by
  induction items generalizing state with
  | nil => exact ⟨state, rfl, settled⟩
  | cons item rest ih =>
      have comma : step state 0x2C = some (.value, .array :: outer) := by
        rw [settled.step (by decide)]
        rfl
      obtain ⟨middle, reaches, middleSettled⟩ :=
        renders item List.mem_cons_self depth (.array :: outer)
      obtain ⟨following, ends, endSettled⟩ :=
        ih (fun other member => renders other (List.mem_cons_of_mem _ member))
          middleSettled
      refine ⟨following, ?_, endSettled⟩
      simp only [renderItems, run, comma, List.append_assoc]
      rw [run_gap (Or.inl rfl) _ (layout.gapSpace depth),
        run_append_of_eq reaches]
      exact ends

theorem run_renderMembers (layout : Layout) (depth : Nat)
    (outer : List Frame) (members : List (String × Json))
    (renders : ∀ member ∈ members, Renders layout member.2)
    {state : State} (settled : Settled (.object :: outer) state) :
    ∃ following, run state (renderMembers layout depth members) =
        some following ∧ Settled (.object :: outer) following := by
  induction members generalizing state with
  | nil => exact ⟨state, rfl, settled⟩
  | cons member rest ih =>
      rcases member with ⟨key, value⟩
      have comma : step state 0x2C = some (.key, .object :: outer) := by
        rw [settled.step (by decide)]
        rfl
      obtain ⟨middle, reaches, middleSettled⟩ :=
        renders (key, value) List.mem_cons_self depth (.object :: outer)
      obtain ⟨following, ends, endSettled⟩ :=
        ih (fun other inRest => renders other (List.mem_cons_of_mem _ inRest))
          middleSettled
      refine ⟨following, ?_, endSettled⟩
      simp only [renderMembers, run, comma, List.append_assoc]
      rw [run_gap (Or.inr (Or.inr (Or.inr rfl))) _ (layout.gapSpace depth),
        run_key (Or.inr rfl), run_colon, run_append_of_eq reaches]
      exact ends

/-- Every document that readers accept renders to a text the grammar
accepts, at any depth and inside any containers. -/
theorem plain_renders (layout : Layout) (document : Json) :
    ∀ limit, document.plain limit = true → Renders layout document := by
  induction document using Json.treeInduction with
  | null =>
      intro limit _isPlain depth stack
      exact ⟨(.scalar, stack), rfl, Or.inr rfl⟩
  | bool value =>
      intro limit _isPlain depth stack
      cases value <;> exact ⟨(.scalar, stack), rfl, Or.inr rfl⟩
  | integer value =>
      intro limit _isPlain depth stack
      refine ⟨(.scalar, stack), run_scalar ?_ ?_, Or.inr rfl⟩
      · rw [List.all_eq_true]
        intro byte member
        obtain ⟨char, inChars, rfl⟩ := List.mem_map.mp member
        exact integerChars_scalar value char inChars
      · intro empty
        exact integerChars_ne_nil value (List.map_eq_nil_iff.mp empty)
  | float text =>
      intro limit isPlain
      simp [plain] at isPlain
  | string text =>
      intro limit _isPlain depth stack
      refine ⟨(.next, stack), ?_, Or.inl rfl⟩
      have opens : step (.value, stack) 0x22 = some (.string false, stack) :=
        rfl
      simp only [render, renderString, List.cons_append, run, opens]
      exact run_renderString_tail false stack text
  | array items itemsRender =>
      intro limit isPlain depth stack
      cases limit with
      | zero => simp [plain] at isPlain
      | succ inner =>
          have itemsPlain := plainItems_mem isPlain
          have opens : step (.value, stack) 0x5B =
              some (.arrayStart, .array :: stack) := rfl
          have closes : ∀ state, Settled (.array :: stack) state →
              run state [0x5D] = some (.next, stack) := by
            intro state settled
            simp only [run]
            rw [settled.step (by decide)]
            rfl
          refine ⟨(.next, stack), ?_, Or.inl rfl⟩
          cases items with
          | nil => rfl
          | cons first rest =>
              obtain ⟨middle, reaches, middleSettled⟩ :=
                itemsRender first List.mem_cons_self inner
                  (itemsPlain first List.mem_cons_self) (depth + 1)
                  (.array :: stack)
              obtain ⟨listed, lists, listSettled⟩ :=
                run_renderItems layout (depth + 1) stack rest
                  (fun item member => itemsRender item
                    (List.mem_cons_of_mem _ member) inner
                    (itemsPlain item (List.mem_cons_of_mem _ member)))
                  middleSettled
              obtain ⟨gapped, gaps, gapSettled⟩ :=
                listSettled.run_space (layout.gapSpace depth)
              simp only [render, run, opens, List.append_assoc]
              rw [run_gap (Or.inr (Or.inl rfl)) _
                  (layout.gapSpace (depth + 1)),
                run_arrayStart layout (depth + 1) inner first
                  (itemsPlain first List.mem_cons_self),
                run_append_of_eq reaches, run_append_of_eq lists,
                run_append_of_eq gaps]
              exact closes gapped gapSettled
  | object members membersRender =>
      intro limit isPlain depth stack
      cases limit with
      | zero => simp [plain] at isPlain
      | succ inner =>
          simp only [plain, Bool.and_eq_true] at isPlain
          have membersPlain := plainMembers_mem isPlain.2
          have opens : step (.value, stack) 0x7B =
              some (.objectStart, .object :: stack) := rfl
          have closes : ∀ state, Settled (.object :: stack) state →
              run state [0x7D] = some (.next, stack) := by
            intro state settled
            simp only [run]
            rw [settled.step (by decide)]
            rfl
          refine ⟨(.next, stack), ?_, Or.inl rfl⟩
          cases members with
          | nil => rfl
          | cons first rest =>
              rcases first with ⟨key, value⟩
              obtain ⟨middle, reaches, middleSettled⟩ :=
                membersRender (key, value) List.mem_cons_self inner
                  (membersPlain (key, value) List.mem_cons_self) (depth + 1)
                  (.object :: stack)
              obtain ⟨listed, lists, listSettled⟩ :=
                run_renderMembers layout (depth + 1) stack rest
                  (fun member inRest => membersRender member
                    (List.mem_cons_of_mem _ inRest) inner
                    (membersPlain member (List.mem_cons_of_mem _ inRest)))
                  middleSettled
              obtain ⟨gapped, gaps, gapSettled⟩ :=
                listSettled.run_space (layout.gapSpace depth)
              simp only [render, run, opens, List.append_assoc]
              rw [run_gap (Or.inr (Or.inr (Or.inl rfl))) _
                  (layout.gapSpace (depth + 1)), run_key (Or.inl rfl),
                run_colon, run_append_of_eq reaches,
                run_append_of_eq lists, run_append_of_eq gaps]
              exact closes gapped gapSettled

end JsonGrammar

end Foundation
