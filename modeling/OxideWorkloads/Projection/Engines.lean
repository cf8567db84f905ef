/-
The projection of one source row by each of the four engines: the workload's
processor, the raw sqlx loop, raw JDBC and JBeret.

The Rust engines trim white space by the Unicode property, the Java engines
every UTF-16 unit up to the space.  They agree on a row exactly if its name is
blank in both senses or in neither.
-/

import OxideWorkloads.Foundation.Utf16
import OxideWorkloads.Projection.Verify

namespace Projection

open Foundation
open Foundation.LineLog (Bytes)
open Foundation.Json (utf8)
open Foundation.Checks

structure TransformedFields where
  displayName : String
  loyaltyScore : Int64
  isPremium : Bool
  rowFingerprint : Bytes
  deriving DecidableEq

structure ProjectedRow where
  importName : String
  sourceDigest : String
  customerId : Int64
  displayName : String
  loyaltyScore : Int64
  isPremium : Bool
  rowFingerprint : Bytes
  deriving DecidableEq

/-! ### The workload -/

def fingerprint (platform : Platform) (customerId : Int64) (fullName : String)
    (isActive : Bool) (balanceCents : Int64) : Bytes :=
  let hasher := toLeBytes customerId ++ [0] ++ utf8 fullName ++ [0] ++
    [boolByte isActive] ++ toLeBytes balanceCents
  (platform.sha256 hasher).toList.take fingerprintLen

def transform (platform : Platform) (customerId : Int64) (fullName : String)
    (isActive : Bool) (balanceCents : Int64) : TransformedFields :=
  { displayName := platform.toUppercase fullName
    loyaltyScore := balanceCents / 100
    isPremium := premiumThresholdCents ≤ balanceCents
    rowFingerprint :=
      fingerprint platform customerId fullName isActive balanceCents }

inductive FailureCategory where
  | userComponent
  deriving DecidableEq

structure CustomerProjector where
  importName : String
  sourceDigest : String

def CustomerProjector.process (platform : Platform)
    (projector : CustomerProjector) (item : SourceRow) :
    Except FailureCategory ProjectedRow :=
  if Text.trim item.fullName = "" then .error .userComponent
  else
    let fields := transform platform item.customerId item.fullName
      item.isActive item.balanceCents
    .ok
      { importName := projector.importName
        sourceDigest := projector.sourceDigest
        customerId := item.customerId
        displayName := fields.displayName
        loyaltyScore := fields.loyaltyScore
        isPremium := fields.isPremium
        rowFingerprint := fields.rowFingerprint }

/-! ### The raw sqlx loop -/

def RawSqlx.project (platform : Platform) (importName digest : String)
    (source : SourceRow) : Except String ProjectedRow := do
  ensure (Text.trim source.fullName ≠ "")
    s!"source full_name must not be empty for customer {source.customerId}"
  let hasher := toLeBytes source.customerId ++ [0] ++ utf8 source.fullName ++
    [0] ++ [boolByte source.isActive] ++ toLeBytes source.balanceCents
  let digestBytes := (platform.sha256 hasher).toList
  return {
    importName
    sourceDigest := digest
    customerId := source.customerId
    displayName := platform.toUppercase source.fullName
    loyaltyScore := source.balanceCents / 100
    isPremium := premiumThresholdCents ≤ source.balanceCents
    rowFingerprint := digestBytes.take fingerprintLen }

/-! ### The Java engines -/

namespace Java

/-- The bytes of a long in a little-endian buffer. -/
def littleEndian (value : Int64) : Bytes :=
  (List.range 8).map (fun index =>
    UInt8.ofNat (value.toUInt64.toNat >>> (8 * index)))

/-- What both Java engines do with a row. -/
def project (platform : Platform) (importName sourceDigest : String)
    (source : SourceRow) : Except String ProjectedRow := do
  ensure (Utf16.trim (Utf16.encode source.fullName) ≠ [])
    s!"source full_name must not be empty for customer {source.customerId}"
  let digest := littleEndian source.customerId ++ [0] ++
    utf8 source.fullName ++ [0] ++ [if source.isActive then 1 else 0] ++
    littleEndian source.balanceCents
  let fullFingerprint := (platform.sha256 digest).toList
  return {
    importName
    sourceDigest
    customerId := source.customerId
    displayName := platform.toUppercase source.fullName
    loyaltyScore := source.balanceCents / 100
    isPremium := premiumThresholdCents ≤ source.balanceCents
    rowFingerprint := fullFingerprint.take fingerprintLen }

end Java

structure RawJdbc.ExecutionIdentity where
  importName : String
  sourceDigest : String

def RawJdbc.project (platform : Platform)
    (identity : RawJdbc.ExecutionIdentity) (source : SourceRow) :
    Except String ProjectedRow :=
  Java.project platform identity.importName identity.sourceDigest source

def JBeret.project (platform : Platform) (importName sourceDigest : String)
    (source : SourceRow) : Except String ProjectedRow :=
  Java.project platform importName sourceDigest source

/-! ### What an engine makes of a row -/

def ProjectedRow.fields (row : ProjectedRow) : TransformedFields :=
  { displayName := row.displayName
    loyaltyScore := row.loyaltyScore
    isPremium := row.isPremium
    rowFingerprint := row.rowFingerprint }

/-- The fields of an accepted row. -/
def accepted {ε : Type} (result : Except ε ProjectedRow) :
    Option TransformedFields :=
  match result with
  | .ok row => some row.fields
  | .error _ => none

def transformRow (platform : Platform) (row : SourceRow) : TransformedFields :=
  transform platform row.customerId row.fullName row.isActive row.balanceCents

theorem trim_eq_empty {text : String} :
    Text.trim text = "" ↔ Text.isBlank text = true := by
  have trimmed : Text.trim text =
      String.ofList (trimBy Text.isWhitespace text.toList) := rfl
  rw [trimmed, String.ofList_eq_empty_iff, trimBy_eq_nil, Text.isBlank,
    List.all_eq_true]

theorem process_accepted (platform : Platform) (projector : CustomerProjector)
    (row : SourceRow) :
    accepted (projector.process platform row) =
      if Text.isBlank row.fullName then none
      else some (transformRow platform row) := by
  unfold CustomerProjector.process
  by_cases blank : Text.trim row.fullName = ""
  · rw [if_pos blank, if_pos (trim_eq_empty.mp blank)]
    rfl
  · rw [if_neg blank, if_neg (fun all => blank (trim_eq_empty.mpr all))]
    rfl

theorem rawSqlx_accepted (platform : Platform) (importName digest : String)
    (row : SourceRow) :
    accepted (RawSqlx.project platform importName digest row) =
      if Text.isBlank row.fullName then none
      else some (transformRow platform row) := by
  unfold RawSqlx.project
  by_cases blank : Text.trim row.fullName = ""
  · rw [if_pos (trim_eq_empty.mp blank), ensure, if_neg (fun no => no blank)]
    rfl
  · rw [if_neg (fun all => blank (trim_eq_empty.mpr all)), ensure,
      if_pos blank]
    rfl

theorem littleEndian_shifts (width value : Nat) :
    (List.range width).map (fun index =>
        UInt8.ofNat (value >>> (8 * index))) =
      littleEndian width value := by
  induction width generalizing value with
  | zero => rfl
  | succ width ih =>
      have first : UInt8.ofNat (value >>> 0) = UInt8.ofNat (value % 256) := by
        apply UInt8.toNat_inj.mp
        rw [UInt8.toNat_ofNat', UInt8.toNat_ofNat', Nat.shiftRight_zero]
        omega
      have later : ∀ index, value >>> (8 * (index + 1)) =
          (value / 256) >>> (8 * index) := by
        intro index
        have byte : value >>> 8 = value / 256 := Nat.shiftRight_eq_div_pow _ _
        rw [Nat.mul_add, Nat.add_comm, Nat.mul_one, Nat.shiftRight_add, byte]
      rw [List.range_succ_eq_map, List.map_cons, List.map_map, littleEndian,
        ← ih, Nat.mul_zero, first]
      apply congrArg
      apply List.map_congr_left
      intro index _
      rw [Function.comp_apply, Nat.succ_eq_add_one, later]

theorem Java.littleEndian_eq (value : Int64) :
    Java.littleEndian value = toLeBytes value :=
  littleEndian_shifts 8 _

/-- Nothing is left of a name by Java's rule. -/
def javaBlank (name : String) : Bool :=
  name.toList.all (fun char => char.toNat ≤ 0x20)

theorem java_accepted (platform : Platform) (importName digest : String)
    (row : SourceRow) :
    accepted (Java.project platform importName digest row) =
      if javaBlank row.fullName then none
      else some (transformRow platform row) := by
  have blank : Utf16.trim (Utf16.encode row.fullName) = [] ↔
      javaBlank row.fullName = true := by
    rw [Utf16.trim_encode_eq_nil, javaBlank, List.all_eq_true]
    simp only [decide_eq_true_eq]
  unfold Java.project
  rw [Java.littleEndian_eq, Java.littleEndian_eq]
  by_cases empty : Utf16.trim (Utf16.encode row.fullName) = []
  · rw [if_pos (blank.mp empty), ensure, if_neg (fun no => no empty)]
    rfl
  · rw [if_neg (fun all => empty (blank.mpr all)), ensure, if_pos empty]
    rfl

/-! ### Agreement -/

section Agreement

variable (platform : Platform) (importName sourceDigest : String)

/-- What each engine makes of a row. -/
def engines : List (SourceRow → Option TransformedFields) :=
  [fun row => accepted
      (CustomerProjector.process platform { importName, sourceDigest } row),
    fun row => accepted
      (RawSqlx.project platform importName sourceDigest row),
    fun row => accepted
      (RawJdbc.project platform { importName, sourceDigest } row),
    fun row => accepted (JBeret.project platform importName sourceDigest row)]

/-- All engines reject a row, or all make the same fields of it. -/
def Agree (row : SourceRow) : Prop :=
  ∀ first ∈ engines platform importName sourceDigest,
    ∀ second ∈ engines platform importName sourceDigest,
      first row = second row

end Agreement

/-- The name is all white space with a character above the space, or all
characters up to the space with one that is not white space. -/
def Divided (name : String) : Prop :=
  ((∀ char ∈ name.toList, Text.isWhitespace char = true) ∧
      ∃ char ∈ name.toList, 0x20 < char.toNat) ∨
    ((∀ char ∈ name.toList, char.toNat ≤ 0x20) ∧
      ∃ char ∈ name.toList, Text.isWhitespace char = false)

theorem divided_iff {name : String} :
    Divided name ↔ Text.isBlank name ≠ javaBlank name := by
  have white : Text.isBlank name = true ↔
      ∀ char ∈ name.toList, Text.isWhitespace char = true :=
    List.all_eq_true
  have low : javaBlank name = true ↔
      ∀ char ∈ name.toList, char.toNat ≤ 0x20 := by
    rw [javaBlank, List.all_eq_true]
    simp only [decide_eq_true_eq]
  have notWhite : Text.isBlank name = false ↔
      ∃ char ∈ name.toList, Text.isWhitespace char = false := by
    rw [Bool.eq_false_iff, ne_eq, white]
    simp
  have notLow : javaBlank name = false ↔
      ∃ char ∈ name.toList, 0x20 < char.toNat := by
    rw [Bool.eq_false_iff, ne_eq, low]
    simp
  unfold Divided
  rw [← white, ← low, ← notWhite, ← notLow]
  cases Text.isBlank name <;> cases javaBlank name <;> decide

/-- A row through an engine that rejects some names. -/
def outcome (platform : Platform) (rejected : String → Bool)
    (row : SourceRow) : Option TransformedFields :=
  if rejected row.fullName then none else some (transformRow platform row)

theorem mem_engines {platform : Platform} {importName sourceDigest : String}
    {engine : SourceRow → Option TransformedFields} :
    engine ∈ engines platform importName sourceDigest ↔
      engine = outcome platform Text.isBlank ∨
        engine = outcome platform javaBlank := by
  have workload := process_accepted platform { importName, sourceDigest }
  have sqlx := rawSqlx_accepted platform importName sourceDigest
  have java := java_accepted platform importName sourceDigest
  have all : engines platform importName sourceDigest =
      [outcome platform Text.isBlank, outcome platform Text.isBlank,
        outcome platform javaBlank, outcome platform javaBlank] := by
    unfold engines
    simp only [workload, sqlx, RawJdbc.project, JBeret.project, java]
    rfl
  rw [all]
  simp only [List.mem_cons, List.not_mem_nil, or_false]
  tauto

/-- All members of a family agree if its two representatives do. -/
theorem engines_agree_iff {β : Type} {platform : Platform}
    {importName sourceDigest : String}
    (observe : (SourceRow → Option TransformedFields) → β) :
    (∀ first ∈ engines platform importName sourceDigest,
        ∀ second ∈ engines platform importName sourceDigest,
          observe first = observe second) ↔
      observe (outcome platform Text.isBlank) =
        observe (outcome platform javaBlank) := by
  constructor
  · intro all
    exact all _ (mem_engines.mpr (Or.inl rfl)) _ (mem_engines.mpr (Or.inr rfl))
  · intro same first one second two
    rcases mem_engines.mp one with rust | java
    · rcases mem_engines.mp two with rust' | java
      · rw [rust, rust']
      · rw [rust, java, same]
    · rcases mem_engines.mp two with rust | java'
      · rw [rust, java, same]
      · rw [java, java']

theorem outcome_eq_iff {platform : Platform} {row : SourceRow} :
    outcome platform Text.isBlank row = outcome platform javaBlank row ↔
      ¬ Divided row.fullName := by
  rw [divided_iff, ne_eq, Decidable.not_not]
  unfold outcome
  cases Text.isBlank row.fullName <;> cases javaBlank row.fullName <;> simp

/-- The engines agree on a row exactly if its name is not divided. -/
theorem agree_iff (platform : Platform) (importName sourceDigest : String)
    (row : SourceRow) :
    Agree platform importName sourceDigest row ↔ ¬Divided row.fullName := by
  unfold Agree
  rw [engines_agree_iff (fun engine => engine row), outcome_eq_iff]

def noBreakSpace : SourceRow :=
  { customerId := 1
    fullName := "\u00A0"
    isActive := true
    balanceCents := 0 }

/-- A name of one no-break space: the Rust engines reject the row, the Java
engines accept it. -/
theorem no_break_space_divides :
    accepted (CustomerProjector.process asciiPlatform ⟨"import", "digest"⟩
        noBreakSpace) = none ∧
      accepted (RawJdbc.project asciiPlatform ⟨"import", "digest"⟩
        noBreakSpace) = some (transformRow asciiPlatform noBreakSpace) ∧
      ¬ Agree asciiPlatform "import" "digest" noBreakSpace := by
  refine ⟨process_accepted _ _ _, java_accepted _ _ _ _, ?_⟩
  rw [agree_iff]
  have divided : Divided noBreakSpace.fullName := by
    apply divided_iff.mpr
    decide
  exact fun agrees => agrees divided

end Projection
