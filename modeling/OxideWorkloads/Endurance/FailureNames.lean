/-
The two readers of failure artifact names: the scan that resumes a campaign,
and the summary.
-/

import OxideWorkloads.Endurance.Evidence
import OxideWorkloads.Foundation.TextSplits

namespace Endurance

open Foundation
open Foundation.Checks

/-- The sequence in the name of a failure artifact, as the summary reads it. -/
def failureFileSequence (path : String) (fileName : FileName) :
    Except String Nat := do
  let name ←
    match fileName with
    | .utf8 text => Except.ok text
    | .other _ => .error s!"failure filename is not UTF-8: {path}"
  let stem ← require (Text.stripSuffix name ".json")
    s!"malformed failure filename: {path}"
  let (sequenceText, timestampText) ← require (Text.splitOnce stem '-')
    s!"malformed failure filename: {path}"
  let sequence ← context s!"parse failure sequence from {path}"
    (Text.parseInteger u64Max sequenceText)
  let _ ← context s!"parse failure timestamp from {path}"
    (Text.parseInteger u64Max timestampText)
  ensure (¬(sequence = 0 ∨ sequenceText ≠ Text.zeroPadded 6 sequence))
    s!"non-canonical failure filename: {path}"
  return sequence

/-! ### What the readers accept -/

/-- A name with a padded sequence, and a text for its timestamp. -/
def failureName (sequence : Nat) (timestampText : String) : String :=
  Text.zeroPadded 6 sequence ++ "-" ++ timestampText ++ ".json"

/-- A sequence that an artifact may have. -/
def sequenceInRange (sequence : Nat) : Prop :=
  1 ≤ sequence ∧ sequence ≤ u64Max

theorem dash_notMem_zeroPadded (width value : Nat) :
    '-' ∉ (Text.zeroPadded width value).toList := by
  intro member
  have digits := Text.zeroPadded_isAsciiDigits width value
  unfold Text.isAsciiDigits at digits
  exact absurd (List.all_eq_true.mp digits '-' member) (by decide)

/-- The parts of a name with a padded sequence. -/
theorem failureName_splits {name stem sequenceText timestampText : String}
    {sequence : Nat} (padded : sequenceText = Text.zeroPadded 6 sequence) :
    (Text.stripSuffix name ".json" = some stem ∧
      Text.splitOnce stem '-' = some (sequenceText, timestampText)) ↔
        name = stem ++ ".json" ∧
          stem = Text.zeroPadded 6 sequence ++ "-" ++ timestampText := by
  rw [Text.stripSuffix_eq_some, Text.splitOnce_eq_some, padded]
  have dash := dash_notMem_zeroPadded 6 sequence
  simp only [dash, not_false_iff, and_true]
  rfl

theorem failureName_parts (sequence : Nat) (timestampText : String) :
    Text.stripSuffix (failureName sequence timestampText) ".json" =
        some (Text.zeroPadded 6 sequence ++ "-" ++ timestampText) ∧
      Text.splitOnce (Text.zeroPadded 6 sequence ++ "-" ++ timestampText) '-' =
        some (Text.zeroPadded 6 sequence, timestampText) :=
  (failureName_splits rfl).mpr ⟨rfl, rfl⟩

theorem parseFailureFileName_eq_ok {path : String} {fileName : FileName}
    {sequence : Nat} :
    parseFailureFileName path fileName = .ok sequence ↔
      sequenceInRange sequence ∧ ∃ timestampText,
        fileName = .utf8 (failureName sequence timestampText) ∧
          timestampText ≠ "" ∧ Text.isAsciiDigits timestampText = true ∧
          (Text.parseUnsigned u64Max timestampText).isSome = true := by
  simp only [parseFailureFileName, bind_eq_ok, utf8FileName_eq_ok,
    require_eq_ok, ensure_eq_ok, pure_eq_ok]
  constructor
  · intro accepted
    obtain ⟨name, utf8, stem, strips, parts, splits, number, parsed, _,
      padded, _, timestamp, same⟩ := accepted
    subst same
    obtain ⟨whole, halves⟩ := (failureName_splits padded).mp ⟨strips, splits⟩
    refine ⟨parseSequenceText_range parsed, parts.2, ?_, timestamp⟩
    rw [utf8, whole, halves]
    rfl
  · intro accepted
    obtain ⟨range, timestampText, utf8, timestamp⟩ := accepted
    obtain ⟨strips, splits⟩ := failureName_parts sequence timestampText
    exact ⟨_, utf8, _, strips, _, splits, sequence,
      parseSequenceText_zeroPadded path range.1 range.2, (), rfl, (),
      timestamp, rfl⟩

theorem failureFileSequence_eq_ok {path : String} {fileName : FileName}
    {sequence : Nat} :
    failureFileSequence path fileName = .ok sequence ↔
      sequenceInRange sequence ∧ ∃ timestampText,
        fileName = .utf8 (failureName sequence timestampText) ∧
          (Text.parseUnsigned u64Max timestampText).isSome = true := by
  cases fileName with
  | other shown =>
      constructor
      · intro impossible
        cases impossible
      · intro accepted
        obtain ⟨_, _, utf8, _⟩ := accepted
        cases utf8
  | utf8 name =>
      simp only [failureFileSequence, ok_bind, bind_eq_ok, require_eq_ok,
        ensure_eq_ok, pure_eq_ok, context_eq_ok, Text.parseInteger_eq_ok,
        not_or, Decidable.not_not, FileName.utf8.injEq]
      constructor
      · intro accepted
        obtain ⟨stem, strips, parts, splits, number, parsed, timestamp, read,
          _, canonical, same⟩ := accepted
        subst same
        obtain ⟨nonzero, padded⟩ := canonical
        obtain ⟨whole, halves⟩ :=
          (failureName_splits padded).mp ⟨strips, splits⟩
        refine ⟨⟨Nat.pos_of_ne_zero nonzero, parseUnsigned_bounded parsed⟩,
          parts.2, ?_, ?_⟩
        · rw [whole, halves]
          rfl
        · rw [read]
          rfl
      · intro accepted
        obtain ⟨range, timestampText, same, readable⟩ := accepted
        obtain ⟨timestamp, read⟩ := Option.isSome_iff_exists.mp readable
        obtain ⟨strips, splits⟩ := failureName_parts sequence timestampText
        rw [same]
        exact ⟨_, strips, _, splits, sequence,
          Text.parseUnsigned_zeroPadded 6 range.2, timestamp, read, (),
          ⟨Nat.ne_of_gt range.1, rfl⟩, rfl⟩

/-! ### Where they differ -/

/-- The timestamp is read behind a plus sign. -/
def SignedTimestamp (fileName : FileName) : Prop :=
  ∃ sequence digits, sequenceInRange sequence ∧
    fileName = .utf8 (failureName sequence ("+" ++ digits)) ∧
      Text.isNumber digits ∧
      (Text.parseUnsigned u64Max digits).isSome = true

/-- Both readers reject the name, or both read the same sequence. -/
def ReadAlike (path : String) (fileName : FileName) : Prop :=
  (parseFailureFileName path fileName).toOption =
    (failureFileSequence path fileName).toOption

theorem failureName_injective {sequence number : Nat}
    {timestampText otherText : String}
    (same : failureName sequence timestampText =
      failureName number otherText) :
    sequence = number ∧ timestampText = otherText := by
  have first := failureName_parts sequence timestampText
  have second := failureName_parts number otherText
  rw [same, second.1] at first
  have stems := Option.some.inj first.1
  rw [← stems, second.2] at first
  obtain ⟨numbers, texts⟩ := Prod.mk.inj (Option.some.inj first.2)
  exact ⟨(Text.zeroPadded_injective numbers).symm, texts.symm⟩

theorem toOption_eq_some {α : Type} {result : Except String α} {value : α} :
    result.toOption = some value ↔ result = .ok value := by
  cases result <;> simp [Except.toOption]

theorem signed_not_digits (digits : String) :
    Text.isAsciiDigits ("+" ++ digits) = false := by
  unfold Text.isAsciiDigits
  rw [String.toList_append, List.all_append]
  rfl

/-- The readers agree on a name unless its timestamp is signed. -/
theorem readAlike_iff {path : String} {fileName : FileName} :
    ReadAlike path fileName ↔ ¬SignedTimestamp fileName := by
  constructor
  · intro alike signed
    obtain ⟨sequence, digits, range, same, number, readable⟩ := signed
    have accepts : failureFileSequence path fileName = .ok sequence :=
      failureFileSequence_eq_ok.mpr ⟨range, _, same,
        Text.parseUnsigned_isSome.mpr (Or.inr ⟨digits, rfl, number, readable⟩)⟩
    have resumes : parseFailureFileName path fileName = .ok sequence := by
      rw [← toOption_eq_some, alike, toOption_eq_some]
      exact accepts
    obtain ⟨_, timestampText, other, _, all, _⟩ :=
      parseFailureFileName_eq_ok.mp resumes
    rw [same, FileName.utf8.injEq] at other
    obtain ⟨_, text⟩ := failureName_injective other
    rw [← text, signed_not_digits] at all
    cases all
  · intro unsigned
    apply Option.ext
    intro sequence
    rw [toOption_eq_some, toOption_eq_some, parseFailureFileName_eq_ok,
      failureFileSequence_eq_ok]
    constructor
    · intro accepted
      obtain ⟨range, timestampText, same, _, _, readable⟩ := accepted
      exact ⟨range, timestampText, same, readable⟩
    · intro accepted
      obtain ⟨range, timestampText, same, readable⟩ := accepted
      rcases Text.parseUnsigned_isSome.mp readable with plain | signed
      · exact ⟨range, timestampText, same, plain.1.1, plain.1.2, plain.2⟩
      · obtain ⟨digits, whole, number, reads⟩ := signed
        rw [whole] at same
        exact absurd ⟨sequence, digits, range, same, number, reads⟩ unsigned

/-- Both readers read every name that the store builds, and agree on all other
names unless the timestamp is signed. -/
theorem failureNames_exact (path : String) (fileName : FileName) :
    (ReadAlike path fileName ↔ ¬SignedTimestamp fileName) ∧
    ∀ sequence timestamp, 1 ≤ sequence → sequence ≤ u64Max →
      timestamp ≤ u64Max →
        parseFailureFileName path
            (.utf8 (failureFileName sequence timestamp)) = .ok sequence ∧
          failureFileSequence path
            (.utf8 (failureFileName sequence timestamp)) = .ok sequence := by
  constructor
  · exact readAlike_iff
  · intro sequence timestamp positive bounded clock
    have padded := Text.decimal_eq_zeroPadded timestamp
    have digits : Text.isAsciiDigits (Text.decimal timestamp) = true := by
      rw [padded]
      exact Text.zeroPadded_isAsciiDigits 0 timestamp
    have readable : (Text.parseUnsigned u64Max
        (Text.decimal timestamp)).isSome = true := by
      rw [padded, Text.parseUnsigned_zeroPadded 0 clock]
      rfl
    have nonempty : Text.decimal timestamp ≠ "" := by
      intro empty
      apply Text.zeroPadded_ne_nil 0 timestamp
      rw [← padded, empty]
      rfl
    constructor
    · exact parseFailureFileName_eq_ok.mpr
        ⟨⟨positive, bounded⟩, _, rfl, nonempty, digits, readable⟩
    · exact failureFileSequence_eq_ok.mpr
        ⟨⟨positive, bounded⟩, _, rfl, readable⟩

theorem failureNames_exact_first :
    parseFailureFileName "failures" (.utf8 (failureFileName 1 5)) = .ok 1 ∧
      failureFileSequence "failures" (.utf8 (failureFileName 1 5)) = .ok 1 :=
  (failureNames_exact "failures" (.utf8 (failureFileName 1 5))).2 1 5
    (by decide) (by decide) (by decide)

/-- The summary counts an artifact that the scan cannot read. -/
theorem signedTimestamp_unread :
    failureFileSequence "failures" (.utf8 "000001-+5.json") = .ok 1 ∧
      parseFailureFileName "failures" (.utf8 "000001-+5.json") =
        .error "malformed failure timestamp in filename: failures" := by
  constructor
  · decide +kernel
  · decide +kernel

end Endurance
