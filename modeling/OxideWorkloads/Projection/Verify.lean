/-
The independent verifier: one ordered merge over the source rows and the rows
of a destination scope, with counts, two running digests and a bounded list of
examples.

Connecting, locking and printing are left out; a stream of rows may break off
with an error at any row.
-/

import Mathlib.Data.Int.Order.Basic
import OxideWorkloads.Foundation.Checks
import OxideWorkloads.Foundation.OrderedMerge
import OxideWorkloads.Projection.SourceContent

namespace Projection

open Foundation
open Foundation.LineLog (Bytes)
open Foundation.Json (utf8)
open Foundation.Checks

def fingerprintLen : Nat := 16
def premiumThresholdCents : Int64 := 50000
def maxRetainedMismatches : Nat := 100

structure ExpectedRow where
  customerId : Int64
  displayName : String
  loyaltyScore : Int64
  isPremium : Bool
  rowFingerprint : Bytes
  deriving DecidableEq

structure ActualRow where
  customerId : Int64
  displayName : String
  loyaltyScore : Int64
  isPremium : Bool
  rowFingerprint : Bytes
  deriving DecidableEq

structure Mismatch where
  customerId : Int64
  reason : String
  deriving DecidableEq

/-- The row that a source row has to become. -/
def expectedProjection (platform : Platform) (row : SourceRow) :
    ExpectedRow :=
  { customerId := row.customerId
    displayName := platform.toUppercase row.fullName
    loyaltyScore := row.balanceCents / 100
    isPremium := premiumThresholdCents ≤ row.balanceCents
    rowFingerprint :=
      (platform.sha256 (encodeFields row)).toList.take fingerprintLen }

def hashExpected (row : ExpectedRow) : Bytes :=
  toLeBytes row.customerId ++ utf8 row.displayName ++ [0] ++
    toLeBytes row.loyaltyScore ++ [boolByte row.isPremium] ++
    row.rowFingerprint ++ [0xFF]

def hashActual (row : ActualRow) : Bytes :=
  toLeBytes row.customerId ++ utf8 row.displayName ++ [0] ++
    toLeBytes row.loyaltyScore ++ [boolByte row.isPremium] ++
    row.rowFingerprint ++ [0xFF]

def compareReasons (expected : ExpectedRow) (actual : ActualRow) :
    List String :=
  (if expected.displayName ≠ actual.displayName then ["display_name"]
    else []) ++
  (if expected.loyaltyScore ≠ actual.loyaltyScore then ["loyalty_score"]
    else []) ++
  (if expected.isPremium ≠ actual.isPremium then ["is_premium"] else []) ++
  (if expected.rowFingerprint ≠ actual.rowFingerprint then
      ["row_fingerprint"]
    else [])

/-- The fields that disagree, joined to one reason. -/
def compare (expected : ExpectedRow) (actual : ActualRow) : Option String :=
  let reasons := compareReasons expected actual
  if reasons = [] then none else some (",".intercalate reasons)

/-! ### The merge -/

/-- A stream of rows, which may break off. -/
abbrev Rows (α : Type) := List (Except String α)

def tryNext {α : Type} : Rows α → Except String (Option α × Rows α)
  | [] => .ok (none, [])
  | .error error :: _ => .error error
  | .ok row :: rest => .ok (some row, rest)

/-- What the merge has counted and hashed so far.  The two hashers stand for
the bytes they were given. -/
structure MergeState where
  expectedHasher : Bytes
  actualHasher : Bytes
  mismatches : List Mismatch
  totalMismatches : Nat
  sourceCount : Nat
  destinationCount : Nat

def MergeState.start : MergeState :=
  { expectedHasher := []
    actualHasher := []
    mismatches := []
    totalMismatches := 0
    sourceCount := 0
    destinationCount := 0 }

namespace MergeState

variable (state : MergeState)

def recordMismatch (mismatch : Mismatch) : MergeState :=
  { state with
    totalMismatches := state.totalMismatches + 1
    mismatches :=
      if state.mismatches.length < maxRetainedMismatches then
        state.mismatches ++ [mismatch]
      else state.mismatches }

/-- A source row without a destination row. -/
def missing (expected : ExpectedRow) : MergeState :=
  let counted := { state with sourceCount := state.sourceCount + 1 }
  let recorded := counted.recordMismatch
    { customerId := expected.customerId
      reason := "missing destination row" }
  { recorded with
    expectedHasher := recorded.expectedHasher ++ hashExpected expected }

/-- A destination row without a source row. -/
def unexpected (actual : ActualRow) : MergeState :=
  let counted :=
    { state with destinationCount := state.destinationCount + 1 }
  let recorded := counted.recordMismatch
    { customerId := actual.customerId
      reason := "unexpected destination row (no matching source row)" }
  { recorded with actualHasher := recorded.actualHasher ++ hashActual actual }

/-- Two rows with one id. -/
def common (expected : ExpectedRow) (actual : ActualRow) : MergeState :=
  let counted :=
    { state with
      sourceCount := state.sourceCount + 1
      destinationCount := state.destinationCount + 1 }
  let recorded :=
    match compare expected actual with
    | some reason => counted.recordMismatch
        { customerId := expected.customerId, reason := reason }
    | none => counted
  { recorded with
    expectedHasher := recorded.expectedHasher ++ hashExpected expected
    actualHasher := recorded.actualHasher ++ hashActual actual }

end MergeState

theorem tryNext_shrinks {α : Type} {rows rest : Rows α} {next : Option α}
    (reads : tryNext rows = .ok (next, rest)) :
    next.toList.length + rest.length ≤ rows.length := by
  cases rows with
  | nil =>
      cases reads
      simp
  | cons row rows =>
      cases row with
      | error error => cases reads
      | ok row =>
          cases reads
          simp [Nat.add_comm]

/-- The loop: the heads of both streams, and what follows them. -/
def mergeLoop (toExpected : SourceRow → ExpectedRow)
    (nextExpected : Option ExpectedRow) (nextActual : Option ActualRow)
    (sourceRows : Rows SourceRow) (destinationRows : Rows ActualRow)
    (state : MergeState) : Except String MergeState :=
  match nextExpected, nextActual with
  | none, none => .ok state
  | some expected, none =>
      match _reads : tryNext sourceRows with
      | .error error => .error error
      | .ok (next, rest) =>
          mergeLoop toExpected (next.map toExpected) none rest
            destinationRows (state.missing expected)
  | none, some actual =>
      match _reads : tryNext destinationRows with
      | .error error => .error error
      | .ok (next, rest) =>
          mergeLoop toExpected none next sourceRows rest
            (state.unexpected actual)
  | some expected, some actual =>
      if expected.customerId = actual.customerId then
        match _reads : tryNext sourceRows with
        | .error error => .error error
        | .ok (next, rest) =>
            match _alsoReads : tryNext destinationRows with
            | .error error => .error error
            | .ok (nextDestination, destinationRest) =>
                mergeLoop toExpected (next.map toExpected) nextDestination
                  rest destinationRest (state.common expected actual)
      else if expected.customerId < actual.customerId then
        match _reads : tryNext sourceRows with
        | .error error => .error error
        | .ok (next, rest) =>
            mergeLoop toExpected (next.map toExpected) (some actual) rest
              destinationRows (state.missing expected)
      else
        match _reads : tryNext destinationRows with
        | .error error => .error error
        | .ok (next, rest) =>
            mergeLoop toExpected (some expected) next sourceRows rest
              (state.unexpected actual)
termination_by nextExpected.toList.length + sourceRows.length +
  (nextActual.toList.length + destinationRows.length)
decreasing_by
  all_goals
    have shrinks := tryNext_shrinks _reads
    simp only [Option.toList_map, List.length_map, Option.toList_some,
      Option.toList_none, List.length_cons, List.length_nil] at *
  · omega
  · omega
  · have also := tryNext_shrinks _alsoReads
    omega
  · omega
  · omega

structure VerifyReport where
  importName : String
  sourceDigest : String
  sourceRows : Nat
  destinationRows : Nat
  rowCountsMatch : Bool
  expectedDigestSha256 : String
  actualDigestSha256 : String
  digestsMatch : Bool
  totalMismatches : Nat
  mismatches : List Mismatch
  mismatchesTruncated : Bool

def report (platform : Platform) (importName sourceDigest : String)
    (state : MergeState) : VerifyReport :=
  let expected := hexDigest (platform.sha256 state.expectedHasher).toList
  let actual := hexDigest (platform.sha256 state.actualHasher).toList
  { importName := importName
    sourceDigest := sourceDigest
    sourceRows := state.sourceCount
    destinationRows := state.destinationCount
    rowCountsMatch := state.sourceCount = state.destinationCount
    expectedDigestSha256 := expected
    actualDigestSha256 := actual
    digestsMatch := expected = actual
    totalMismatches := state.totalMismatches
    mismatches := state.mismatches
    mismatchesTruncated :=
      state.mismatches.length < state.totalMismatches }

/-- Whether the report counts as a success. -/
def VerifyReport.conclude (report : VerifyReport) : Except String Unit := do
  ensure (report.totalMismatches = 0)
    (let omitted := report.totalMismatches - report.mismatches.length
    s!"verify failed: {report.totalMismatches} row mismatch(es) between " ++
      "source-derived expectation and destination content" ++
      (if 0 < omitted then
        s!" ({omitted} additional mismatch(es) omitted from the retained " ++
          "examples above, see total_mismatches)"
      else ""))
  ensure (report.rowCountsMatch = true)
    (s!"verify failed: source has {report.sourceRows} business-significant " ++
      s!"rows, destination has {report.destinationRows}")
  ensure (report.digestsMatch = true)
    "verify failed: expected and actual content digests do not match"

/-- The streams as the queries open them: the source rows by id, and the rows
of a scope, which is an import name and a source digest, by id. -/
structure Tables where
  source : Rows SourceRow
  destination : String → String → Rows ActualRow

/-- The digest of a source that is read to its end. -/
def readDigest (platform : Platform) : Rows SourceRow → Bytes →
    Except String String
  | [], hashed => .ok (hexDigest (platform.sha256 hashed).toList)
  | .error error :: _, _ => .error error
  | .ok row :: rest, hashed =>
      readDigest platform rest (hashed ++ encodeRow row)

/-- The printed report, if the streams could be read, and the outcome. -/
def verify (platform : Platform) (tables : Tables) (importName : String) :
    Except String (VerifyReport × Except String Unit) := do
  let sourceDigest ← readDigest platform tables.source []
  let destination := tables.destination importName sourceDigest
  let (nextSource, sourceRest) ← tryNext tables.source
  let (nextActual, destinationRest) ← tryNext destination
  let state ← mergeLoop (expectedProjection platform)
    (nextSource.map (expectedProjection platform)) nextActual sourceRest
    destinationRest .start
  let printed := report platform importName sourceDigest state
  return (printed, printed.conclude)

/-! ### The merge is a walk over both tables -/

/-- The row in the destination that a source row is expected as. -/
def ExpectedRow.asActual (row : ExpectedRow) : ActualRow :=
  { customerId := row.customerId
    displayName := row.displayName
    loyaltyScore := row.loyaltyScore
    isPremium := row.isPremium
    rowFingerprint := row.rowFingerprint }

/-- The two rows disagree in a compared field. -/
def Differs (expected : ExpectedRow) (actual : ActualRow) : Prop :=
  expected.displayName ≠ actual.displayName ∨
    expected.loyaltyScore ≠ actual.loyaltyScore ∨
    expected.isPremium ≠ actual.isPremium ∨
    expected.rowFingerprint ≠ actual.rowFingerprint

instance (expected : ExpectedRow) (actual : ActualRow) :
    Decidable (Differs expected actual) :=
  inferInstanceAs (Decidable (_ ∨ _ ∨ _ ∨ _))

theorem compareReasons_eq_nil {expected : ExpectedRow} {actual : ActualRow} :
    compareReasons expected actual = [] ↔ ¬Differs expected actual := by
  simp only [compareReasons, List.append_eq_nil_iff, ite_eq_right_iff,
    reduceCtorEq, imp_false, Differs, not_or, and_assoc]

theorem compare_eq_none {expected : ExpectedRow} {actual : ActualRow} :
    compare expected actual = none ↔ ¬Differs expected actual := by
  rw [← compareReasons_eq_nil, compare]
  simp

section Walk

variable (platform : Platform)

abbrev Step := Side SourceRow ActualRow

def sourceKey (row : SourceRow) : Int := row.customerId.toInt

def actualKey (row : ActualRow) : Int := row.customerId.toInt

/-- Both tables, side by side. -/
def walk (source : List SourceRow) (destination : List ActualRow) :
    List Step :=
  Side.pairUp sourceKey actualKey source destination

@[simp] theorem expectedProjection_customerId (row : SourceRow) :
    (expectedProjection platform row).customerId = row.customerId :=
  rfl

/-- The mismatch that one step of the merge reports. -/
def mismatchOf : Step → Option Mismatch
  | .left row => some
      { customerId := row.customerId
        reason := "missing destination row" }
  | .right row => some
      { customerId := row.customerId
        reason := "unexpected destination row (no matching source row)" }
  | .both row actual =>
      (compare (expectedProjection platform row) actual).map (fun reason =>
        { customerId := row.customerId
          reason := reason })

def MergeState.absorb (state : MergeState) : Step → MergeState
  | .left row => state.missing (expectedProjection platform row)
  | .right actual => state.unexpected actual
  | .both row actual => state.common (expectedProjection platform row) actual

section Steps

variable {platform} {toExpected : SourceRow → ExpectedRow}
variable {sourceRows sourceRest : Rows SourceRow}
variable {destinationRows destinationRest : Rows ActualRow}
variable {nextSource : Option SourceRow} {nextActual : Option ActualRow}
variable {expected : ExpectedRow} {actual : ActualRow} {state : MergeState}

theorem mergeLoop_done : mergeLoop toExpected none none sourceRows
    destinationRows state = .ok state := by
  rw [mergeLoop.eq_def]

theorem mergeLoop_sourceOnly
    (reads : tryNext sourceRows = .ok (nextSource, sourceRest)) :
    mergeLoop toExpected (some expected) none sourceRows destinationRows
        state =
      mergeLoop toExpected (nextSource.map toExpected) none sourceRest
        destinationRows (state.missing expected) := by
  rw [mergeLoop.eq_def]
  simp only
  split <;> rename_i found <;> rw [reads] at found <;> cases found
  rfl

theorem mergeLoop_destinationOnly
    (reads : tryNext destinationRows = .ok (nextActual, destinationRest)) :
    mergeLoop toExpected none (some actual) sourceRows destinationRows
        state =
      mergeLoop toExpected none nextActual sourceRows destinationRest
        (state.unexpected actual) := by
  rw [mergeLoop.eq_def]
  simp only
  split <;> rename_i found <;> rw [reads] at found <;> cases found
  rfl

theorem mergeLoop_equal (equal : expected.customerId = actual.customerId)
    (reads : tryNext sourceRows = .ok (nextSource, sourceRest))
    (alsoReads : tryNext destinationRows =
      .ok (nextActual, destinationRest)) :
    mergeLoop toExpected (some expected) (some actual) sourceRows
        destinationRows state =
      mergeLoop toExpected (nextSource.map toExpected) nextActual sourceRest
        destinationRest (state.common expected actual) := by
  rw [mergeLoop.eq_def]
  simp only [equal, if_true]
  split <;> rename_i found <;> rw [reads] at found <;> cases found
  split <;> rename_i found <;> rw [alsoReads] at found <;> cases found
  rfl

theorem mergeLoop_below (different : expected.customerId ≠ actual.customerId)
    (below : expected.customerId < actual.customerId)
    (reads : tryNext sourceRows = .ok (nextSource, sourceRest)) :
    mergeLoop toExpected (some expected) (some actual) sourceRows
        destinationRows state =
      mergeLoop toExpected (nextSource.map toExpected) (some actual)
        sourceRest destinationRows (state.missing expected) := by
  rw [mergeLoop.eq_def]
  simp only [different, below, if_true, if_false]
  split <;> rename_i found <;> rw [reads] at found <;> cases found
  rfl

theorem mergeLoop_above (different : expected.customerId ≠ actual.customerId)
    (above : ¬expected.customerId < actual.customerId)
    (reads : tryNext destinationRows = .ok (nextActual, destinationRest)) :
    mergeLoop toExpected (some expected) (some actual) sourceRows
        destinationRows state =
      mergeLoop toExpected (some expected) nextActual sourceRows
        destinationRest (state.unexpected actual) := by
  rw [mergeLoop.eq_def]
  simp only [different, above, if_false]
  split <;> rename_i found <;> rw [reads] at found <;> cases found
  rfl

end Steps

theorem tryNext_ok {α : Type} (rows : List α) :
    tryNext (rows.map .ok) = .ok (rows.head?, rows.tail.map .ok) := by
  cases rows <;> rfl

/-- Over rows that can all be read, the loop is the walk. -/
theorem mergeLoop_walk (source : List SourceRow)
    (destination : List ActualRow) (state : MergeState) :
    mergeLoop (expectedProjection platform)
      (source.head?.map (expectedProjection platform)) destination.head?
      (source.tail.map .ok) (destination.tail.map .ok) state =
        .ok ((walk source destination).foldl (MergeState.absorb platform)
          state) := by
  unfold walk
  induction source, destination using Side.pairUp.induct sourceKey actualKey
    generalizing state with
  | case1 destination =>
      rw [Side.pairUp]
      induction destination generalizing state with
      | nil => exact mergeLoop_done
      | cons actual rest ih =>
          exact (mergeLoop_destinationOnly (tryNext_ok rest)).trans (ih _)
  | case2 row rest =>
      rw [Side.pairUp]
      induction rest generalizing row state with
      | nil => exact (mergeLoop_sourceOnly rfl).trans mergeLoop_done
      | cons other rest ih =>
          exact (mergeLoop_sourceOnly (tryNext_ok (other :: rest))).trans
            (ih other _)
  | case3 row source actual destination same ih =>
      have equal : (expectedProjection platform row).customerId =
          actual.customerId := Int64.toInt_inj.mp same
      rw [Side.pairUp, if_pos same]
      exact (mergeLoop_equal equal (tryNext_ok source)
        (tryNext_ok destination)).trans (ih _)
  | case4 row source actual destination different below ih =>
      have unequal : (expectedProjection platform row).customerId ≠
          actual.customerId := fun equal => different (congrArg _ equal)
      have less : (expectedProjection platform row).customerId <
          actual.customerId := Int64.lt_iff_toInt_lt.mpr below
      rw [Side.pairUp, if_neg different, if_pos below]
      exact (mergeLoop_below unequal less (tryNext_ok source)).trans (ih _)
  | case5 row source actual destination different above ih =>
      have unequal : (expectedProjection platform row).customerId ≠
          actual.customerId := fun equal => different (congrArg _ equal)
      have notLess : ¬(expectedProjection platform row).customerId <
          actual.customerId := fun less => above (Int64.lt_iff_toInt_lt.mp less)
      rw [Side.pairUp, if_neg different, if_neg above]
      exact (mergeLoop_above unequal notLess (tryNext_ok destination)).trans
        (ih _)

/-- What the counters and hashers hold after some steps. -/
structure Counted (steps : List Step) (state : MergeState) : Prop where
  expected : state.expectedHasher = (steps.filterMap Side.left?).flatMap
    (fun row => hashExpected (expectedProjection platform row))
  actual : state.actualHasher =
    (steps.filterMap Side.right?).flatMap hashActual
  mismatches : state.mismatches =
    (steps.filterMap (mismatchOf platform)).take maxRetainedMismatches
  total : state.totalMismatches =
    (steps.filterMap (mismatchOf platform)).length
  source : state.sourceCount = (steps.filterMap Side.left?).length
  destination : state.destinationCount =
    (steps.filterMap Side.right?).length

theorem take_append_one {α : Type} (items : List α) (item : α)
    (limit : Nat) :
    (if (items.take limit).length < limit then items.take limit ++ [item]
      else items.take limit) = (items ++ [item]).take limit := by
  rw [List.length_take]
  split_ifs with short
  · rw [List.take_of_length_le (by omega), List.take_of_length_le]
    simp
    omega
  · rw [List.take_append_of_le_length (by omega)]

variable {platform}

theorem Counted.absorb {steps : List Step} {state : MergeState}
    (counted : Counted platform steps state) (step : Step) :
    Counted platform (steps ++ [step]) (state.absorb platform step) := by
  obtain ⟨expected, actual, mismatches, total, source, destination⟩ := counted
  cases step with
  | left row =>
      constructor <;>
        simp [MergeState.absorb, MergeState.missing,
          MergeState.recordMismatch, mismatchOf, Side.left?, Side.right?,
          List.filterMap_append, ← take_append_one, expected, actual,
          mismatches, total, source, destination]
  | right row =>
      constructor <;>
        simp [MergeState.absorb, MergeState.unexpected,
          MergeState.recordMismatch, mismatchOf, Side.left?, Side.right?,
          List.filterMap_append, ← take_append_one, expected, actual,
          mismatches, total, source, destination]
  | both row other =>
      cases compared : compare (expectedProjection platform row) other <;>
        constructor <;>
          simp [MergeState.absorb, MergeState.common, compared,
            MergeState.recordMismatch, mismatchOf, Side.left?, Side.right?,
            List.filterMap_append, ← take_append_one, expected, actual,
            mismatches, total, source, destination]

theorem counted_walk (steps : List Step) :
    Counted platform steps
      (steps.foldl (MergeState.absorb platform) .start) := by
  induction steps using List.reverseRecOn with
  | nil => exact ⟨rfl, rfl, rfl, rfl, rfl, rfl⟩
  | append_singleton steps step ih =>
      rw [List.foldl_append]
      exact ih.absorb step

end Walk

end Projection
