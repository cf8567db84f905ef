/-
The verifier accepts a destination scope exactly when it is the projection of
the source, and counts and names every mismatch otherwise.
-/

import OxideWorkloads.Projection.Verify

namespace Projection

open Foundation
open Foundation.Checks

variable {platform : Platform}
variable {source : List SourceRow} {destination : List ActualRow}

/-! ### Mismatches -/

/-- A mismatch between two tables. -/
inductive Mismatched (platform : Platform) (source : List SourceRow)
    (destination : List ActualRow) : Mismatch → Prop where
  | missing (row : SourceRow) (inSource : row ∈ source)
      (absent : ∀ actual ∈ destination, actual.customerId ≠ row.customerId) :
      Mismatched platform source destination
        { customerId := row.customerId
          reason := "missing destination row" }
  | unexpected (actual : ActualRow) (inDestination : actual ∈ destination)
      (absent : ∀ row ∈ source, row.customerId ≠ actual.customerId) :
      Mismatched platform source destination
        { customerId := actual.customerId
          reason := "unexpected destination row (no matching source row)" }
  | differs (row : SourceRow) (actual : ActualRow) (inSource : row ∈ source)
      (inDestination : actual ∈ destination)
      (same : row.customerId = actual.customerId) (reason : String)
      (compared : compare (expectedProjection platform row) actual =
        some reason) :
      Mismatched platform source destination
        { customerId := row.customerId
          reason := reason }

/-- The ids of the source alone. -/
def onlySource (source : List SourceRow) (destination : List ActualRow) :
    Nat :=
  source.countP (fun row => destination.all (fun actual =>
    actual.customerId ≠ row.customerId))

/-- The ids of the destination alone. -/
def onlyDestination (source : List SourceRow)
    (destination : List ActualRow) : Nat :=
  destination.countP (fun actual => source.all (fun row =>
    row.customerId ≠ actual.customerId))

/-- The common ids whose rows differ. -/
def differing (platform : Platform) (source : List SourceRow)
    (destination : List ActualRow) : Nat :=
  source.countP (fun row => destination.any (fun actual =>
    row.customerId = actual.customerId ∧
      Differs (expectedProjection platform row) actual))

section Ascending

variable (sourceAscends : source.Pairwise (fun x y =>
  x.customerId < y.customerId))
variable (destinationAscends : destination.Pairwise (fun x y =>
  x.customerId < y.customerId))

include sourceAscends in
theorem sourceKey_ascends :
    source.Pairwise (fun x y => sourceKey x < sourceKey y) :=
  sourceAscends.imp Int64.lt_iff_toInt_lt.mp

include destinationAscends in
theorem actualKey_ascends :
    destination.Pairwise (fun x y => actualKey x < actualKey y) :=
  destinationAscends.imp Int64.lt_iff_toInt_lt.mp

include sourceAscends destinationAscends

theorem mem_walk_left {row : SourceRow} :
    .left row ∈ walk source destination ↔ row ∈ source ∧
      ∀ actual ∈ destination, actual.customerId ≠ row.customerId := by
  rw [walk, Side.mem_left_iff (sourceKey_ascends sourceAscends)
    (actualKey_ascends destinationAscends)]
  simp only [ne_eq, actualKey, sourceKey, Int64.toInt_inj]

theorem mem_walk_right {actual : ActualRow} :
    .right actual ∈ walk source destination ↔ actual ∈ destination ∧
      ∀ row ∈ source, row.customerId ≠ actual.customerId := by
  rw [walk, Side.mem_right_iff (sourceKey_ascends sourceAscends)
    (actualKey_ascends destinationAscends)]
  simp only [ne_eq, actualKey, sourceKey, Int64.toInt_inj]

theorem mem_walk_both {row : SourceRow} {actual : ActualRow} :
    .both row actual ∈ walk source destination ↔ row ∈ source ∧
      actual ∈ destination ∧ row.customerId = actual.customerId := by
  rw [walk, Side.mem_both_iff (sourceKey_ascends sourceAscends)
    (actualKey_ascends destinationAscends)]
  simp only [actualKey, sourceKey, Int64.toInt_inj]

/-- The merge reports the mismatches and nothing else. -/
theorem mem_mismatches {mismatch : Mismatch} :
    mismatch ∈ (walk source destination).filterMap (mismatchOf platform) ↔
      Mismatched platform source destination mismatch := by
  rw [List.mem_filterMap]
  constructor
  · rintro ⟨step, member, reported⟩
    cases step with
    | left row =>
        cases reported
        have found := (mem_walk_left sourceAscends destinationAscends).mp
          member
        exact .missing row found.1 found.2
    | right actual =>
        cases reported
        have found := (mem_walk_right sourceAscends destinationAscends).mp
          member
        exact .unexpected actual found.1 found.2
    | both row actual =>
        have found := (mem_walk_both sourceAscends destinationAscends).mp
          member
        simp only [mismatchOf, Option.map_eq_some_iff] at reported
        obtain ⟨reason, compared, rfl⟩ := reported
        exact .differs row actual found.1 found.2.1 found.2.2 reason compared
  · intro mismatched
    cases mismatched with
    | missing row inSource absent =>
        exact ⟨.left row, (mem_walk_left sourceAscends
          destinationAscends).mpr ⟨inSource, absent⟩, rfl⟩
    | unexpected actual inDestination absent =>
        exact ⟨.right actual, (mem_walk_right sourceAscends
          destinationAscends).mpr ⟨inDestination, absent⟩, rfl⟩
    | differs row actual inSource inDestination same reason compared =>
        exact ⟨.both row actual, (mem_walk_both sourceAscends
          destinationAscends).mpr ⟨inSource, inDestination, same⟩, by
            simp [mismatchOf, compared]⟩

/-- The mismatches are reported in the order of their ids. -/
theorem mismatches_ascend :
    ((walk source destination).filterMap (mismatchOf platform)).Pairwise
      (fun x y => x.customerId < y.customerId) := by
  have keyed : ∀ step mismatch, mismatchOf platform step = some mismatch →
      mismatch.customerId.toInt = step.key sourceKey actualKey := by
    intro step mismatch reported
    cases step with
    | left row =>
        cases reported
        rfl
    | right actual =>
        cases reported
        rfl
    | both row actual =>
        simp only [mismatchOf, Option.map_eq_some_iff] at reported
        obtain ⟨reason, _, rfl⟩ := reported
        rfl
  have ascends := Side.pairUp_ascending (sourceKey_ascends sourceAscends)
    (actualKey_ascends destinationAscends)
  refine List.Pairwise.filterMap _ (fun first second below => ?_) ascends
  intro mismatch reported other alsoReported
  rw [Int64.lt_iff_toInt_lt, keyed first mismatch reported,
    keyed second other alsoReported]
  exact below

/-- A step that reports a row of the source alone. -/
def isLeft : Step → Bool
  | .left _ => true
  | _ => false

def isRight : Step → Bool
  | .right _ => true
  | _ => false

def isDiffering (platform : Platform) : Step → Bool
  | .both row actual => decide (Differs (expectedProjection platform row) actual)
  | _ => false

omit sourceAscends destinationAscends in
theorem mismatches_length (platform : Platform) (steps : List Step) :
    (steps.filterMap (mismatchOf platform)).length =
      steps.countP isLeft + steps.countP isRight +
        steps.countP (isDiffering platform) := by
  induction steps with
  | nil => rfl
  | cons step rest ih =>
      cases step with
      | left row =>
          simp [List.countP_cons, mismatchOf, isLeft, isRight, isDiffering, ih]
          omega
      | right row =>
          simp [List.countP_cons, mismatchOf, isLeft, isRight, isDiffering, ih]
          omega
      | both row actual =>
          by_cases differs : Differs (expectedProjection platform row) actual
          · obtain ⟨reason, compared⟩ :=
              Option.ne_none_iff_exists'.mp (fun none =>
                compare_eq_none.mp none differs)
            simp [mismatchOf, compared, isLeft, isRight, isDiffering, differs,
              ih]
            omega
          · have compared := compare_eq_none.mpr differs
            simp [mismatchOf, compared, isLeft, isRight, isDiffering, differs,
              ih]

theorem countP_isLeft :
    (walk source destination).countP isLeft =
      onlySource source destination := by
  conv_rhs => rw [onlySource, ← Side.filterMap_left sourceKey actualKey source
    destination]
  rw [List.countP_filterMap]
  refine List.countP_congr (fun step member => ?_)
  cases step with
  | left row =>
      have found := (mem_walk_left sourceAscends destinationAscends).mp member
      simpa [isLeft, Side.left?] using found.2
  | right actual => simp [isLeft, Side.left?]
  | both row actual =>
      have found := (mem_walk_both sourceAscends destinationAscends).mp member
      simpa [isLeft, Side.left?] using ⟨actual, found.2.1, found.2.2.symm⟩

theorem countP_isRight :
    (walk source destination).countP isRight =
      onlyDestination source destination := by
  conv_rhs => rw [onlyDestination, ← Side.filterMap_right sourceKey actualKey
    source destination]
  rw [List.countP_filterMap]
  refine List.countP_congr (fun step member => ?_)
  cases step with
  | left row => simp [isRight, Side.right?]
  | right actual =>
      have found := (mem_walk_right sourceAscends destinationAscends).mp member
      simpa [isRight, Side.right?] using found.2
  | both row actual =>
      have found := (mem_walk_both sourceAscends destinationAscends).mp member
      simpa [isRight, Side.right?] using ⟨row, found.1, found.2.2⟩

omit sourceAscends in
/-- Ids are not repeated. -/
theorem eq_of_customerId {first second : ActualRow}
    (inFirst : first ∈ destination) (inSecond : second ∈ destination)
    (same : first.customerId = second.customerId) : first = second := by
  by_contra different
  have distinct : destination.Pairwise (fun x y =>
      x.customerId ≠ y.customerId) :=
    (actualKey_ascends destinationAscends).imp (fun below equal => by
      rw [actualKey, actualKey, equal] at below
      omega)
  have symmetric : Std.Symm (fun x y : ActualRow =>
      x.customerId ≠ y.customerId) := ⟨fun _ _ unequal => Ne.symm unequal⟩
  exact distinct.forall inFirst inSecond different same

theorem countP_isDiffering :
    (walk source destination).countP (isDiffering platform) =
      differing platform source destination := by
  conv_rhs => rw [differing, ← Side.filterMap_left sourceKey actualKey source
    destination]
  rw [List.countP_filterMap]
  refine List.countP_congr (fun step member => ?_)
  cases step with
  | left row =>
      have found := (mem_walk_left sourceAscends destinationAscends).mp member
      simp only [isDiffering, Side.left?, Bool.false_eq_true, Option.map_some,
        Option.getD_some, List.any_eq_true, decide_eq_true_eq, false_iff,
        not_exists, not_and]
      intro actual inDestination same
      exact absurd same.symm (found.2 actual inDestination)
  | right actual => simp [isDiffering, Side.left?]
  | both row actual =>
      have found := (mem_walk_both sourceAscends destinationAscends).mp member
      simp only [isDiffering, Side.left?, Option.map_some, Option.getD_some,
        List.any_eq_true, decide_eq_true_eq]
      constructor
      · exact fun differs => ⟨actual, found.2.1, found.2.2, differs⟩
      · rintro ⟨other, inDestination, same, differs⟩
        rw [eq_of_customerId destinationAscends found.2.1
          inDestination (found.2.2.symm.trans same)]
        exact differs

end Ascending

/-! ### Acceptance -/

/-- The row expected in the destination for a source row. -/
def projected (platform : Platform) (row : SourceRow) : ActualRow :=
  (expectedProjection platform row).asActual

theorem not_differs_iff {platform : Platform} {row : SourceRow}
    {actual : ActualRow} (same : row.customerId = actual.customerId) :
    ¬Differs (expectedProjection platform row) actual ↔
      actual = projected platform row := by
  simp only [Differs, not_or, not_not]
  constructor
  · rintro ⟨name, score, premium, fingerprint⟩
    cases actual
    simp_all [projected, ExpectedRow.asActual]
  · rintro rfl
    exact ⟨rfl, rfl, rfl, rfl⟩

/-- A walk without a mismatch meets each row with its projection. -/
theorem walk_clean (steps : List Step)
    (keyed : ∀ row actual, .both row actual ∈ steps →
      row.customerId = actual.customerId)
    (clean : steps.filterMap (mismatchOf platform) = []) :
    steps.filterMap Side.right? =
      (steps.filterMap Side.left?).map (projected platform) := by
  induction steps with
  | nil => rfl
  | cons step rest ih =>
      rw [List.filterMap_eq_nil_iff] at clean
      have restClean : rest.filterMap (mismatchOf platform) = [] :=
        List.filterMap_eq_nil_iff.mpr (fun other member =>
          clean other (List.mem_cons_of_mem _ member))
      have next := ih (fun row actual member =>
        keyed row actual (List.mem_cons_of_mem _ member)) restClean
      have first := clean step List.mem_cons_self
      cases step with
      | left row => cases first
      | right actual => cases first
      | both row actual =>
          have same := keyed row actual List.mem_cons_self
          simp only [mismatchOf, Option.map_eq_none_iff,
            compare_eq_none] at first
          have equal := (not_differs_iff same).mp first
          simp [Side.left?, Side.right?, next, equal]

theorem walk_projected (platform : Platform) (source : List SourceRow) :
    walk source (source.map (projected platform)) =
      source.map (fun row => .both row (projected platform row)) := by
  induction source with
  | nil =>
      rw [walk, List.map_nil, Side.pairUp]
      rfl
  | cons row rest ih =>
      have same : sourceKey row = actualKey (projected platform row) := rfl
      rw [walk, List.map_cons, Side.pairUp, if_pos same]
      rw [walk] at ih
      rw [ih]
      rfl

theorem clean_iff :
    (walk source destination).filterMap (mismatchOf platform) = [] ↔
      destination = source.map (projected platform) := by
  constructor
  · intro clean
    have keyed : ∀ row actual, .both row actual ∈ walk source destination →
        row.customerId = actual.customerId := by
      intro row actual member
      have same : sourceKey row = actualKey actual := Side.both_key member
      exact Int64.toInt_inj.mp same
    have rows := walk_clean _ keyed clean
    rwa [walk, Side.filterMap_left, Side.filterMap_right] at rows
  · rintro rfl
    rw [walk_projected, List.filterMap_eq_nil_iff]
    intro step member
    obtain ⟨row, _, rfl⟩ := List.mem_map.mp member
    have equal : ¬Differs (expectedProjection platform row)
        (projected platform row) := (not_differs_iff rfl).mpr rfl
    simp [mismatchOf, compare_eq_none.mpr equal]

theorem conclude_eq_ok {printed : VerifyReport} :
    printed.conclude = .ok () ↔ printed.totalMismatches = 0 ∧
      printed.rowCountsMatch = true ∧ printed.digestsMatch = true := by
  simp [VerifyReport.conclude]

theorem readDigest_ok (platform : Platform) (rows : List SourceRow) (hashed : LineLog.Bytes) :
    readDigest platform (rows.map .ok) hashed =
      .ok (hexDigest
        (platform.sha256 (hashed ++ encodeSource rows)).toList) := by
  induction rows generalizing hashed with
  | nil => simp [readDigest, encodeSource]
  | cons row rest ih =>
      simp only [List.map_cons, readDigest, ih]
      simp [encodeSource]

/-- What the merge over two tables ends with. -/
def mergedState (platform : Platform) (source : List SourceRow)
    (destination : List ActualRow) : MergeState :=
  (walk source destination).foldl (MergeState.absorb platform) .start

theorem verify_runs {tables : Tables} {importName : String}
    (sourceReads : tables.source = source.map .ok)
    (destinationReads : tables.destination importName
      (compute platform source) = destination.map .ok) :
    verify platform tables importName =
      .ok (report platform importName (compute platform source)
          (mergedState platform source destination),
        (report platform importName (compute platform source)
          (mergedState platform source destination)).conclude) := by
  simp only [verify, sourceReads, readDigest_ok platform source [], ok_bind,
    List.nil_append]
  rw [← compute, destinationReads]
  simp only [tryNext_ok, ok_bind, mergeLoop_walk]
  rfl

/-- The report counts as a success exactly for the projection of the
source. -/
theorem conclude_merged {importName sourceDigest : String} :
    (report platform importName sourceDigest
      (mergedState platform source destination)).conclude = .ok () ↔
        destination = source.map (projected platform) := by
  have counted : Counted platform (walk source destination)
      (mergedState platform source destination) := counted_walk _
  rw [conclude_eq_ok, ← clean_iff, ← List.length_eq_zero_iff, ← counted.total]
  constructor
  · intro accepted
    exact accepted.1
  · intro clean
    -- Equal rows have equal counts and the same bytes to hash.
    have equal := clean_iff.mp
      (List.length_eq_zero_iff.mp (counted.total.symm.trans clean))
    have lefts : (walk source destination).filterMap Side.left? = source :=
      Side.filterMap_left _ _ _ _
    have rights : (walk source destination).filterMap Side.right? =
        destination := Side.filterMap_right _ _ _ _
    have counts : (mergedState platform source destination).sourceCount =
        (mergedState platform source destination).destinationCount := by
      rw [counted.source, counted.destination, lefts, rights, equal,
        List.length_map]
    have hashed : (mergedState platform source destination).actualHasher =
        (mergedState platform source destination).expectedHasher := by
      rw [counted.actual, counted.expected, lefts, rights, equal,
        List.flatMap_map]
      rfl
    exact ⟨clean, by simp [report, counts, hashed]⟩

/-- The verifier counts and lists the mismatches of any two ascending tables,
and accepts the projection of the source and nothing else. -/
theorem verify_exact {tables : Tables} {importName : String}
    (sourceReads : tables.source = source.map .ok)
    (destinationReads : tables.destination importName
      (compute platform source) = destination.map .ok)
    (sourceAscends : source.Pairwise (fun x y =>
      x.customerId < y.customerId))
    (destinationAscends : destination.Pairwise (fun x y =>
      x.customerId < y.customerId)) :
    ∃ printed outcome,
      verify platform tables importName = .ok (printed, outcome) ∧
      printed.sourceRows = source.length ∧
      printed.destinationRows = destination.length ∧
      printed.totalMismatches = onlySource source destination +
        onlyDestination source destination +
          differing platform source destination ∧
      (∃ all : List Mismatch,
        all.Pairwise (fun x y => x.customerId < y.customerId) ∧
        (∀ mismatch, mismatch ∈ all ↔
          Mismatched platform source destination mismatch) ∧
        all.length = printed.totalMismatches ∧
        printed.mismatches = all.take maxRetainedMismatches) ∧
      (outcome = .ok () ↔ destination = source.map (projected platform)) := by
  have counted : Counted platform (walk source destination)
      (mergedState platform source destination) := counted_walk _
  have lefts : (walk source destination).filterMap Side.left? = source :=
    Side.filterMap_left _ _ _ _
  have rights : (walk source destination).filterMap Side.right? =
      destination := Side.filterMap_right _ _ _ _
  have lengths := mismatches_length platform (walk source destination)
  rw [countP_isLeft sourceAscends destinationAscends,
    countP_isRight sourceAscends destinationAscends,
    countP_isDiffering sourceAscends destinationAscends] at lengths
  refine ⟨_, _, verify_runs sourceReads destinationReads, ?_, ?_, ?_, ?_,
    conclude_merged⟩
  · exact counted.source.trans (congrArg List.length lefts)
  · exact counted.destination.trans (congrArg List.length rights)
  · exact counted.total.trans lengths
  · exact ⟨_, mismatches_ascend sourceAscends destinationAscends,
      fun _ => mem_mismatches sourceAscends destinationAscends,
      counted.total.symm, counted.mismatches⟩

/-- A source row that is missing, and a row that nothing asked for. -/
def exampleTables : Tables :=
  { source := [.ok ⟨1, "Ada", true, 60000⟩]
    destination := fun _ _ => [.ok ⟨2, "BOB", 1, false, []⟩] }

theorem verify_exact_two : ∃ printed outcome,
    verify asciiPlatform exampleTables "import" = .ok (printed, outcome) ∧
      printed.totalMismatches = 2 := by
  obtain ⟨printed, outcome, runs, _, _, total, _⟩ :=
    @verify_exact asciiPlatform [⟨1, "Ada", true, 60000⟩]
      [⟨2, "BOB", 1, false, []⟩] exampleTables "import" rfl rfl
      (by simp) (by simp)
  refine ⟨printed, outcome, runs, total.trans ?_⟩
  decide

end Projection
