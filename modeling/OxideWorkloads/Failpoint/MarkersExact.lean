/-
What a poll of a marker makes of a text that has landed in part.

The endurance runner waits for two lines, but compares the second one before
it is ended.  The benchmarks wait for a size, and take the first line for
whole.
-/

import OxideWorkloads.Endurance.IterationSpec
import OxideWorkloads.Failpoint.Markers

open Foundation

namespace Failpoint.Markers

/-- What is seen of a marker of two lines. -/
theorem visible_lines {value : Nat} {boundary seen : String}
    (initial : seen.toList <+:
      Nat.toDigits 10 value ++ '\n' :: (boundary.toList ++ ['\n'])) :
    seen.toList <+: Nat.toDigits 10 value ∨
      ∃ rest : String, seen = Text.decimal value ++ "\n" ++ rest ∧
        (rest.toList <+: boundary.toList ∨ rest = boundary ++ "\n") := by
  rcases Text.prefix_append_cases.mp initial with first | ⟨more, same, later⟩
  · exact Or.inl first
  · rcases List.prefix_cons_iff.mp later with nothing | ⟨rest, split, last⟩
    · left
      rw [same, nothing, List.append_nil]
    · right
      refine ⟨String.ofList rest, ?_, ?_⟩
      · apply String.toList_injective
        rw [same, split]
        simp [Text.decimal_toList]
      · rw [String.toList_ofList]
        rcases Text.prefix_append_cases.mp last with short | ⟨end_, whole, ends⟩
        · exact Or.inl short
        · rcases List.prefix_cons_iff.mp ends with nothing | ⟨none_, line, empty⟩
          · left
            rw [whole, nothing, List.append_nil]
          · right
            rw [whole, line, List.prefix_nil.mp empty]
            apply String.toList_injective
            simp

/-! ### The endurance runner -/

section Runner

variable {pid : UInt32} {boundary : String}

/-- Only a part of the first line is there. -/
theorem waitForPauseMarker_first {seen : String}
    (initial : seen.toList <+: Nat.toDigits 10 pid.toNat) :
    waitForPauseMarker boundary (some seen) = .again := by
  have none_ : Text.splitOnce seen '\n' = none :=
    Text.splitOnce_absent (Text.notMem_of_initial initial (by decide))
  simp only [waitForPauseMarker, Endurance.parseMarker, Text.firstTwoLines,
    none_]

theorem waitForPauseMarker_empty :
    waitForPauseMarker boundary (some (Text.decimal pid.toNat ++ "\n" ++ "")) =
      .again := by
  have oneLine : '\n' ∉ "".toList := by simp
  have nothing := Endurance.firstTwoLines_open pid.toNat oneLine
  rw [if_pos rfl] at nothing
  simp only [waitForPauseMarker, Endurance.parseMarker, nothing]

/-- The second line is compared although it is not ended. -/
theorem waitForPauseMarker_partial {rest : String} (nonempty : rest ≠ "")
    (oneLine : '\n' ∉ rest.toList) :
    (waitForPauseMarker boundary
      (some (Text.decimal pid.toNat ++ "\n" ++ rest))).Safe pid.toNat ↔
        rest = boundary := by
  have lines := Endurance.firstTwoLines_open pid.toNat oneLine
  rw [if_neg nonempty] at lines
  unfold waitForPauseMarker Poll.Safe
  dsimp only
  rw [Endurance.parseMarker_lines lines]
  by_cases same : rest = boundary
  · simp [same]
  · simp [same]

theorem waitForPauseMarker_whole (oneLine : '\n' ∉ boundary.toList)
    (solid : boundary.toList.getLast? ≠ some '\r') :
    waitForPauseMarker boundary
      (some (Text.decimal pid.toNat ++ "\n" ++ (boundary ++ "\n"))) =
        .returned pid.toNat := by
  have lines := Endurance.firstTwoLines_ended pid.toNat oneLine solid
  unfold waitForPauseMarker
  dsimp only
  rw [Endurance.parseMarker_lines lines, if_pos rfl]

theorem waitForPauseMarker_safe_iff {seen : String}
    (oneLine : '\n' ∉ boundary.toList)
    (solid : boundary.toList.getLast? ≠ some '\r')
    (initial : seen.toList <+:
      Nat.toDigits 10 pid.toNat ++ '\n' :: (boundary.toList ++ ['\n'])) :
    (waitForPauseMarker boundary (some seen)).Safe pid.toNat ↔
      seen.length ≤ (Text.decimal pid.toNat).length + 1 ∨
        (Text.decimal pid.toNat).length + 1 + boundary.length ≤
          seen.length := by
  rcases visible_lines initial with first | ⟨rest, same, second⟩
  · rw [waitForPauseMarker_first first]
    have short : seen.length ≤ (Text.decimal pid.toNat).length := by
      rw [← String.length_toList, ← String.length_toList,
        Text.decimal_toList]
      exact first.length_le
    constructor
    · intro _
      left
      omega
    · intro _
      exact Or.inl rfl
  · have length : seen.length =
        (Text.decimal pid.toNat).length + 1 + rest.length := by
      rw [same, String.length_append, String.length_append]
      rfl
    rcases second with part | whole
    · by_cases empty : rest = ""
      · have again : waitForPauseMarker boundary (some seen) = .again := by
          rw [same, empty]
          exact waitForPauseMarker_empty
        rw [empty, String.length_empty] at length
        rw [again]
        constructor
        · intro _
          left
          omega
        · intro _
          exact Or.inl rfl
      · have inside : '\n' ∉ rest.toList := fun member =>
          oneLine (part.subset member)
        have some_ : 0 < rest.length := by
          apply Nat.pos_of_ne_zero
          intro zero
          exact empty (String.length_eq_zero_iff.mp zero)
        have bound := part.length_le
        rw [String.length_toList, String.length_toList] at bound
        rw [same, waitForPauseMarker_partial empty inside, ← same, length]
        constructor
        · intro equal
          right
          rw [equal]
        · intro either
          have long : boundary.toList.length ≤ rest.toList.length := by
            rw [String.length_toList, String.length_toList]
            omega
          exact String.toList_injective (part.eq_of_length_le long)
    · have returned : waitForPauseMarker boundary (some seen) =
          .returned pid.toNat := by
        rw [same, whole]
        exact waitForPauseMarker_whole oneLine solid
      rw [whole, String.length_append] at length
      rw [returned]
      constructor
      · intro _
        right
        omega
      · intro _
        exact Or.inr rfl

/-- The runner's loop takes its polls one after another, as long as the child
runs. -/
theorem waitForPauseMarker_loop {path expected text : String}
    {poll : Endurance.MarkerPoll} {rest : List Endurance.MarkerPoll}
    (contents : poll.contents = some (.ok text))
    (running : poll.exited = .ok none) :
    (waitForPauseMarker expected (some text) = .again →
      Endurance.waitForPauseMarker path expected (poll :: rest) =
        Endurance.waitForPauseMarker path expected rest) ∧
    (∀ error, waitForPauseMarker expected (some text) = .failed error →
      Endurance.waitForPauseMarker path expected (poll :: rest) =
        .error error) ∧
    (∀ number, waitForPauseMarker expected (some text) = .returned number →
      ∃ marker, marker.pid.toNat = number ∧
        Endurance.waitForPauseMarker path expected (poll :: rest) =
          .ok marker) := by
  rw [Endurance.waitForPauseMarker, contents]
  unfold waitForPauseMarker
  dsimp only
  cases Endurance.parseMarker expected text with
  | none =>
      dsimp only
      rw [Endurance.waitForPauseMarker.waitForExit, running]
      constructor
      · intro _
        rfl
      constructor
      · intro error fails
        cases fails
      · intro number returns
        cases returns
  | some outcome =>
      cases outcome with
      | error error =>
          constructor
          · intro again
            cases again
          constructor
          · intro other fails
            cases fails
            rfl
          · intro number returns
            cases returns
      | ok marker =>
          constructor
          · intro again
            cases again
          constructor
          · intro error fails
            cases fails
          · intro number returns
            cases returns
            exact ⟨marker, rfl, rfl⟩

/-- The boundary that the runner arms is the one that the failpoint names. -/
theorem crashContract_boundary {sequence : Nat}
    {failure : Endurance.EnduranceFailure} {contract : String × String × Nat}
    (armed : Endurance.crashContract sequence failure = .ok contract) :
    ∃ mode : PostgresPostgres.FailureMode, contract.2.1 = mode.boundary := by
  cases failure with
  | clean => cases armed
  | beforeCommit =>
      cases armed
      exact ⟨.duringWrite, rfl⟩
  | afterCommit =>
      cases armed
      exact ⟨.afterBusinessCommit, rfl⟩

end Runner

/-! ### The benchmarks -/

section Benchmarks

variable {value : Nat} {invalid : String → String}

theorem pidOfMarker_line {text : String} {line first digits : List Char}
    (found : Python.firstLine text.toList = some line)
    (stripped : Python.strip line = first)
    (chosen : (fullmatchPid first).getD first = digits)
    (isDigit : Python.isDigit digits = true) :
    pidOfMarker invalid text = .ok (Text.digitsValue digits) := by
  unfold pidOfMarker
  rw [found]
  dsimp only
  rw [stripped, chosen]
  exact if_pos isDigit

theorem fullmatchPid_digit {digit : Char} (isDigit : digit.isDigit = true)
    (rest : List Char) : fullmatchPid (digit :: rest) = none := by
  unfold fullmatchPid
  apply if_neg
  intro starts
  have head : 'p' = digit := by
    simp only [List.isPrefixOf_iff_prefix] at starts
    exact (List.cons_prefix_cons.mp starts).1
  rw [← head] at isDigit
  cases isDigit

/-- The digits are all there is up to the end or a blank. -/
theorem fullmatchPid_digits {digits tail : List Char}
    (isDigits : ∀ char ∈ digits, char.isDigit = true) (nonempty : digits ≠ [])
    (ends : tail = [] ∨ tail.head? = some ' ')
    (oneLine : '\n' ∉ tail) :
    fullmatchPid ("pid=".toList ++ (digits ++ tail)) = some digits := by
  have stops : tail.takeWhile Char.isDigit = [] ∧
      tail.dropWhile Char.isDigit = tail := by
    rcases ends with empty | blank
    · rw [empty]
      exact ⟨rfl, rfl⟩
    · obtain ⟨rest, same⟩ := List.head?_eq_some_iff.mp blank
      rw [same]
      exact ⟨rfl, rfl⟩
  have starts : "pid=".toList.isPrefixOf ("pid=".toList ++ (digits ++ tail)) :=
    List.isPrefixOf_iff_prefix.mpr (List.prefix_append _ _)
  have rest : ("pid=".toList ++ (digits ++ tail)).drop 4 = digits ++ tail := rfl
  unfold fullmatchPid
  rw [if_pos starts, rest]
  simp only [List.takeWhile_append_of_pos isDigits,
    List.dropWhile_append_of_pos isDigits, stops.1, stops.2, List.append_nil]
  apply if_pos
  constructor
  · exact nonempty
  · rcases ends with empty | blank
    · exact Or.inl empty
    · exact Or.inr ⟨blank, oneLine⟩

theorem blank_of_initial {part rest : List Char} (initial : part <+: rest)
    (blank : rest = [] ∨ rest.head? = some ' ') :
    part = [] ∨ part.head? = some ' ' := by
  cases part with
  | nil => exact Or.inl rfl
  | cons char chars =>
      right
      rcases blank with empty | blank
      · rw [empty] at initial
        cases List.prefix_nil.mp initial
      · obtain ⟨more, same⟩ := List.head?_eq_some_iff.mp blank
        rw [same] at initial
        rw [(List.cons_prefix_cons.mp initial).1]
        rfl

/-- A line of digits. -/
theorem pidOfMarker_digits {text : String} {digits : List Char}
    (isDigits : ∀ char ∈ digits, char.isDigit = true) (nonempty : digits ≠ [])
    (found : Python.firstLine text.toList = some digits) :
    pidOfMarker invalid text = .ok (Text.digitsValue digits) := by
  have stripped : Python.strip digits = digits :=
    Python.strip_of_solid (fun char member =>
      Python.isSpace_of_isDigit (isDigits char member))
  have unmatched : fullmatchPid digits = none := by
    cases digits with
    | nil => exact absurd rfl nonempty
    | cons digit rest =>
        exact fullmatchPid_digit (isDigits digit List.mem_cons_self) rest
  apply pidOfMarker_line found stripped
  · rw [unmatched]
    rfl
  · exact Python.isDigit_eq_true.mpr ⟨nonempty, isDigits⟩

/-- A line of the form `pid=` and digits, with a rest behind a blank. -/
theorem pidOfMarker_pid {text : String} {digits rest : List Char}
    (isDigits : ∀ char ∈ digits, char.isDigit = true) (nonempty : digits ≠ [])
    (blank : rest = [] ∨ rest.head? = some ' ') (oneLine : '\n' ∉ rest)
    (found : Python.firstLine text.toList =
      some ("pid=".toList ++ digits ++ rest)) :
    pidOfMarker invalid text = .ok (Text.digitsValue digits) := by
  have last := List.getLast?_eq_some_getLast nonempty
  have ends : ("pid=".toList ++ digits).getLast? =
      some (digits.getLast nonempty) := by
    rw [List.getLast?_append_of_ne_nil _ nonempty, last]
  have stripped : Python.strip ("pid=".toList ++ digits ++ rest) =
      "pid=".toList ++ (digits ++ Python.rstrip rest) := by
    rw [← List.append_assoc]
    exact (Python.strip_cons (by decide)).trans (Python.rstrip_append ends
      (Python.isSpace_of_isDigit (isDigits _ (List.getLast_mem nonempty))))
  have initial := Python.rstrip_initial rest
  have matched := fullmatchPid_digits isDigits nonempty
    (blank_of_initial initial blank) (fun member => oneLine (initial.subset member))
  apply pidOfMarker_line found stripped
  · rw [matched]
    rfl
  · exact Python.isDigit_eq_true.mpr ⟨nonempty, isDigits⟩

/-- A part of the digits is read as another process. -/
theorem digits_safe_iff {part : List Char}
    (initial : part <+: Nat.toDigits 10 value) (nonempty : part ≠ []) :
    (Poll.returned (Text.digitsValue part)).Safe value ↔
      (Text.decimal value).length ≤ part.length := by
  have whole := Text.digitsValue_initial initial nonempty
  rw [← String.length_toList, Text.decimal_toList]
  unfold Poll.Safe
  simp only [reduceCtorEq, false_or, Poll.returned.injEq]
  rw [whole]
  constructor
  · intro same
    rw [same]
  · intro long
    exact initial.eq_of_length_le long

/-- The workload's marker: its first line is read before it is ended. -/
theorem pidOfMarker_workload {boundary : String} {seen : String}
    (nonempty : seen ≠ "")
    (initial : seen.toList <+:
      Nat.toDigits 10 value ++ '\n' :: (boundary.toList ++ ['\n'])) :
    ∃ part, part <+: Nat.toDigits 10 value ∧ part ≠ [] ∧
      pidOfMarker invalid seen = .ok (Text.digitsValue part) ∧
      ((Text.decimal value).length ≤ part.length ↔
        (Text.decimal value).length ≤ seen.length) := by
  have solid : ∀ part, part <+: Nat.toDigits 10 value → part ≠ [] →
      ∀ rest, Python.firstLine (part ++ rest) = some
        (part ++ rest.takeWhile (fun char => !Python.isLineBreak char)) := by
    intro part short some_ rest
    exact Python.firstLine_append some_ (fun char member =>
      Python.isLineBreak_of_isDigit (Text.isDigit_of_initial short char member))
  rcases visible_lines initial with first | ⟨rest, same, _⟩
  · have some_ : seen.toList ≠ [] := fun empty =>
      nonempty (String.toList_eq_nil_iff.mp empty)
    have line := solid _ first some_ []
    rw [List.append_nil, List.takeWhile_nil, List.append_nil] at line
    refine ⟨seen.toList, first, some_, ?_, ?_⟩
    · exact pidOfMarker_digits (Text.isDigit_of_initial first) some_ line
    · rw [String.length_toList]
  · have some_ : Nat.toDigits 10 value ≠ [] := Nat.toDigits_ne_nil
    have line := solid _ List.prefix_rfl some_ ('\n' :: rest.toList)
    have text : seen.toList =
        Nat.toDigits 10 value ++ '\n' :: rest.toList := by
      rw [same]
      simp [Text.decimal_toList]
    rw [← text] at line
    refine ⟨Nat.toDigits 10 value, List.prefix_rfl, some_, ?_, ?_⟩
    · apply pidOfMarker_digits (Text.isDigit_of_initial List.prefix_rfl) some_
      rw [line]
      exact congrArg some (List.append_nil _)
    · have long : (Nat.toDigits 10 value).length ≤ seen.toList.length := by
        rw [text, List.length_append]
        omega
      rw [← String.length_toList, ← String.length_toList,
        Text.decimal_toList]
      constructor
      · intro _
        exact long
      · intro _
        exact Nat.le_refl _

/-- Nothing but a part of `pid=` is there. -/
theorem pidOfMarker_label {seen : String} (nonempty : seen ≠ "")
    (initial : seen.toList <+: "pid=".toList) :
    pidOfMarker invalid seen = .error (invalid seen) := by
  have taken := List.prefix_iff_eq_take.mp initial
  have bound : seen.toList.length ≤ 4 := initial.length_le
  have positive : 0 < seen.toList.length := by
    rw [List.length_pos_iff]
    exact fun empty => nonempty (String.toList_eq_nil_iff.mp empty)
  have whole : seen = String.ofList seen.toList := String.ofList_toList.symm
  obtain one | two | three | four : seen.toList.length = 1 ∨
      seen.toList.length = 2 ∨ seen.toList.length = 3 ∨
        seen.toList.length = 4 := by omega
  · rw [one] at taken
    rw [whole, taken]
    rfl
  · rw [two] at taken
    rw [whole, taken]
    rfl
  · rw [three] at taken
    rw [whole, taken]
    rfl
  · rw [four] at taken
    rw [whole, taken]
    rfl

/-- The engine's marker: what stands behind `pid=` is read before a blank has
ended it. -/
theorem pidOfMarker_engine {seen : String} {tail : List Char}
    (blank : tail.head? = some ' ') (nonempty : seen ≠ "")
    (initial : seen.toList <+:
      "pid=".toList ++ (Nat.toDigits 10 value ++ tail)) :
    (pidOfMarker invalid seen = .error (invalid seen) ∧ seen.length ≤ 4) ∨
      ∃ part, part <+: Nat.toDigits 10 value ∧ part ≠ [] ∧
        pidOfMarker invalid seen = .ok (Text.digitsValue part) ∧
        ((Text.decimal value).length ≤ part.length ↔
          4 + (Text.decimal value).length ≤ seen.length) := by
  by_cases label : seen.toList <+: "pid=".toList
  · left
    have bound : seen.toList.length ≤ 4 := label.length_le
    rw [String.length_toList] at bound
    exact ⟨pidOfMarker_label nonempty label, bound⟩
  · right
    obtain ⟨more, same, later⟩ :=
      (Text.prefix_append_cases.mp initial).resolve_left label
    have some_ : more ≠ [] := by
      intro empty
      rw [same, empty, List.append_nil] at label
      exact label List.prefix_rfl
    have unbroken : "pid=".toList.all
        (fun char => !Python.isLineBreak char) = true := by decide
    have line : ∀ part, part <+: Nat.toDigits 10 value → ∀ rest,
        Python.firstLine ("pid=".toList ++ part ++ rest) =
          some ("pid=".toList ++ part ++
            rest.takeWhile (fun char => !Python.isLineBreak char)) := by
      intro part short rest
      apply Python.firstLine_append (List.append_ne_nil_of_left_ne_nil
        (List.cons_ne_nil _ _) _)
      intro char member
      rcases List.mem_append.mp member with inLabel | digit
      · have whole := List.all_eq_true.mp unbroken char inLabel
        rw [Bool.not_eq_true'] at whole
        exact whole
      · exact Python.isLineBreak_of_isDigit
          (Text.isDigit_of_initial short char digit)
    have length : seen.length = 4 + more.length := by
      rw [← String.length_toList, same, List.length_append]
      rfl
    rw [length, ← String.length_toList, Text.decimal_toList]
    rcases Text.prefix_append_cases.mp later with short | ⟨rest, whole, ends⟩
    · refine ⟨more, short, some_, ?_, by omega⟩
      have found := line more short []
      have text : seen.toList = "pid=".toList ++ more ++ [] := by
        rw [List.append_nil]
        exact same
      rw [← text] at found
      exact pidOfMarker_pid (Text.isDigit_of_initial short) some_ (Or.inl rfl)
        (List.not_mem_nil) found
    · refine ⟨Nat.toDigits 10 value, List.prefix_rfl, Nat.toDigits_ne_nil, ?_,
        ?_⟩
      · have found := line _ List.prefix_rfl rest
        rw [List.append_assoc, ← whole, ← same] at found
        have kept : rest.takeWhile (fun char => !Python.isLineBreak char) <+:
            rest := List.takeWhile_prefix _
        apply pidOfMarker_pid (Text.isDigit_of_initial List.prefix_rfl)
          Nat.toDigits_ne_nil
          (blank_of_initial (kept.trans ends) (Or.inr blank)) _ found
        intro member
        have inLine := List.mem_takeWhile_imp member
        revert inLine
        decide
      · rw [whole, List.length_append]
        omega

/-- A reader that waits for a size is safe as it is on the text it reads. -/
theorem pollSized_safe_iff {markerPid : String → Except String Nat}
    {sized : Option String} {seen : String} {condition : Prop}
    (earlier : ∀ early ∈ sized, early.toList <+: seen.toList)
    (reads : seen ≠ "" →
      ((Poll.ofExcept (markerPid seen)).Safe value ↔ condition)) :
    (pollSized markerPid sized seen).Safe value ↔
      sized = none ∨ sized = some "" ∨ condition := by
  cases sized with
  | none =>
      constructor
      · intro _
        exact Or.inl rfl
      · intro _
        exact Or.inl rfl
  | some early =>
      by_cases empty : early = ""
      · rw [empty]
        constructor
        · intro _
          exact Or.inr (Or.inl rfl)
        · intro _
          exact Or.inl rfl
      · have nonempty : seen ≠ "" := by
          intro nothing
          have initial := earlier early rfl
          rw [nothing] at initial
          exact empty (String.toList_eq_nil_iff.mp (List.prefix_nil.mp initial))
        change (if early = "" then Poll.again
          else .ofExcept (markerPid seen)).Safe value ↔ _
        rw [if_neg empty, reads nonempty]
        simp only [reduceCtorEq, Option.some.injEq, empty, false_or]

theorem workload_safe_iff {boundary seen : String} {sized : Option String}
    (initial : seen.toList <+:
      Nat.toDigits 10 value ++ '\n' :: (boundary.toList ++ ['\n']))
    (earlier : ∀ early ∈ sized, early.toList <+: seen.toList) :
    (pollSized (pidOfMarker invalid) sized seen).Safe value ↔
      sized = none ∨ sized = some "" ∨
        (Text.decimal value).length ≤ seen.length := by
  apply pollSized_safe_iff earlier
  intro nonempty
  obtain ⟨part, short, some_, reads, long⟩ :=
    pidOfMarker_workload nonempty initial
  rw [reads, ← long]
  exact digits_safe_iff short some_

theorem engine_safe_iff {seen : String} {tail : List Char}
    {sized : Option String} (blank : tail.head? = some ' ')
    (initial : seen.toList <+:
      "pid=".toList ++ (Nat.toDigits 10 value ++ tail))
    (earlier : ∀ early ∈ sized, early.toList <+: seen.toList) :
    (pollSized (pidOfMarker invalid) sized seen).Safe value ↔
      sized = none ∨ sized = some "" ∨
        4 + (Text.decimal value).length ≤ seen.length := by
  apply pollSized_safe_iff earlier
  intro nonempty
  rcases pidOfMarker_engine blank nonempty initial with
    ⟨fails, short⟩ | ⟨part, short, some_, reads, long⟩
  · have positive : 0 < (Nat.toDigits 10 value).length :=
      List.length_pos_iff.mpr Nat.toDigits_ne_nil
    rw [fails, ← String.length_toList, Text.decimal_toList]
    constructor
    · intro safe
      rcases safe with again | returned
      · cases again
      · cases returned
    · intro long
      omega
  · rw [reads, ← long]
    exact digits_safe_iff short some_

end Benchmarks

/-! ### Both markers, all readers -/

theorem markerText_toList (value : Nat) (boundary : String) :
    (PostgresPostgres.markerText value boundary).toList =
      Nat.toDigits 10 value ++ '\n' :: (boundary.toList ++ ['\n']) := by
  simp only [PostgresPostgres.markerText, String.toList_append]
  change ((Text.decimal value).toList ++ _) ++ _ ++ _ = _
  rw [Text.decimal_toList, List.append_assoc, List.append_assoc]
  rfl

theorem visible_workload {value : Nat} {mode : PostgresPostgres.FailureMode}
    {seen : String}
    (visible : Text.Visible (PostgresPostgres.markerPieces value mode) seen) :
    seen.toList <+:
      Nat.toDigits 10 value ++ '\n' :: (mode.boundary.toList ++ ['\n']) := by
  rw [← markerText_toList]
  rw [Text.visible_iff, PostgresPostgres.markerPieces, List.flatMap_singleton]
    at visible
  exact visible

/-- What the engine writes behind the digits. -/
def engineTail (chunk : UInt64) (phase : Projection.RawSqlx.PausePhase) :
    List Char :=
  " chunk=".toList ++ ((Text.decimal chunk.toNat).toList ++
    (" phase=".toList ++ (phase.asStr.toList ++ ['\n'])))

theorem visible_engine {value : Nat} {chunk : UInt64}
    {phase : Projection.RawSqlx.PausePhase} {seen : String}
    (visible : Text.Visible
      (Projection.RawSqlx.markerPieces value chunk phase) seen) :
    seen.toList <+:
      "pid=".toList ++ (Nat.toDigits 10 value ++ engineTail chunk phase) := by
  rw [Text.visible_iff] at visible
  simp only [Projection.RawSqlx.markerPieces, List.flatMap_cons,
    List.flatMap_nil, List.append_nil] at visible
  rw [← Text.decimal_toList]
  exact visible

theorem boundary_oneLine (mode : PostgresPostgres.FailureMode) :
    '\n' ∉ mode.boundary.toList ∧
      mode.boundary.toList.getLast? ≠ some '\r' := by
  cases mode with
  | duringWrite => decide
  | afterBusinessCommit => decide

/-- A poll goes on or returns the writer exactly if it does not find a part of
the line that its reader takes for whole: the second line for the endurance
runner, the digits for the benchmarks, and their label too in the marker of
the engine. -/
theorem crashMarkers_exact (pid : UInt32) (seen : String)
    (sized : Option String) (repr : String → String)
    (earlier : ∀ early ∈ sized, early.toList <+: seen.toList) :
    (∀ mode : PostgresPostgres.FailureMode,
      Text.Visible (PostgresPostgres.markerPieces pid.toNat mode) seen →
        ((waitForPauseMarker mode.boundary (some seen)).Safe pid.toNat ↔
          seen.length ≤ (Text.decimal pid.toNat).length + 1 ∨
            (Text.decimal pid.toNat).length + 1 + mode.boundary.length ≤
              seen.length) ∧
        ((Paired.waitForMarker repr sized seen).Safe pid.toNat ↔
          sized = none ∨ sized = some "" ∨
            (Text.decimal pid.toNat).length ≤ seen.length) ∧
        ((FourWay.timedCrash sized seen).Safe pid.toNat ↔
          sized = none ∨ sized = some "" ∨
            (Text.decimal pid.toNat).length ≤ seen.length)) ∧
    (∀ chunk phase,
      Text.Visible (Projection.RawSqlx.markerPieces pid.toNat chunk phase)
          seen →
        ((Paired.waitForMarker repr sized seen).Safe pid.toNat ↔
          sized = none ∨ sized = some "" ∨
            4 + (Text.decimal pid.toNat).length ≤ seen.length) ∧
        ((FourWay.timedCrash sized seen).Safe pid.toNat ↔
          sized = none ∨ sized = some "" ∨
            4 + (Text.decimal pid.toNat).length ≤ seen.length)) := by
  constructor
  · intro mode visible
    have initial := visible_workload visible
    obtain ⟨oneLine, solid⟩ := boundary_oneLine mode
    constructor
    · exact waitForPauseMarker_safe_iff oneLine solid initial
    constructor
    · exact workload_safe_iff initial earlier
    · exact workload_safe_iff initial earlier
  · intro chunk phase visible
    have initial := visible_engine visible
    have blank : (engineTail chunk phase).head? = some ' ' := rfl
    constructor
    · exact engine_safe_iff blank initial earlier
    · exact engine_safe_iff blank initial earlier

/-- The first digits of the workload's marker. -/
theorem visible_digits : Text.Visible
    (PostgresPostgres.markerPieces 1234 .afterBusinessCommit) "12" := by
  rw [Text.visible_iff]
  decide

theorem crashMarkers_exact_digits :
    (FourWay.timedCrash (some "1") "12").Safe 1234 ↔
      some "1" = none ∨ some "1" = some "" ∨
        (Text.decimal 1234).length ≤ "12".length := by
  apply ((crashMarkers_exact 1234 "12" (some "1") id _).1 .afterBusinessCommit
    visible_digits).2.2
  intro early member
  cases member
  decide

/-- Texts that land in part: a boundary that is reported as another one, and
digits that name another process. -/
theorem partialMarkers_unsafe :
    (Text.Visible (PostgresPostgres.markerPieces 1234 .afterBusinessCommit)
        "1234\nafter" ∧
      ¬(waitForPauseMarker "after-business-commit"
        (some "1234\nafter")).Safe 1234) ∧
    (Text.Visible (PostgresPostgres.markerPieces 1234 .afterBusinessCommit)
        "12" ∧
      FourWay.timedCrash (some "1") "12" = .returned 12 ∧
      ∀ repr, Paired.waitForMarker repr (some "1") "12" = .returned 12) ∧
    (Text.Visible (Projection.RawSqlx.markerPieces 1234 3 .beforeCommit)
        "pid=" ∧
      FourWay.timedCrash (some "pid=") "pid=" =
        .failed "invalid crash marker PID") := by
  constructor
  · constructor
    · rw [Text.visible_iff]
      decide
    · decide +kernel
  constructor
  · constructor
    · exact visible_digits
    constructor
    · decide
    · intro repr
      rfl
  · constructor
    · rw [Text.visible_iff]
      decide
    · decide

end Failpoint.Markers
