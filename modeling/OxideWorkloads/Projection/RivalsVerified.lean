/-
What a race of the raw engines leaves behind, and what the verifier says of it.

The verifier queries the rows of an import by customer id and merges them with
the source.  Over a prefix it reports each row behind the prefix as missing,
and nothing else.
-/

import OxideWorkloads.Projection.RivalsRuns
import OxideWorkloads.Projection.VerifyExact

namespace Projection

open Foundation
open Foundation.Checks

variable {platform : Platform} {table : SourceTable} {importName : String}
  {initial : TargetTables} {shared : Shared TargetTables Commit}
  {sessions : List (Session TargetTables Commit String Unit)}

/-! ### Races of both engines -/

theorem race_kept
    (fresh : initial.Fresh importName (compute platform table.rows))
    (race : Race Commit.apply (Rival platform table importName)
      { store := initial, log := [] } sessions shared) :
    (prefixStore platform table importName initial).Kept shared ∧
      ∀ session ∈ sessions,
        (prefixStore platform table importName initial).Running shared
          session := by
  apply PrefixStore.race_kept fresh.prefixed rfl _ race
  intro session rival
  cases rival with
  | rawSqlx args imports =>
      rw [← imports]
      exact ⟨_, RawSqlx.unloaded_within args⟩
  | rawJdbc parsed imports =>
      rw [← imports]
      exact ⟨_, RawJdbc.unloaded_within parsed⟩

/-- What an import of a source is at some moment: its first rows, each once,
and the checkpoint of them with the writer of them. -/
structure ImportedTo (platform : Platform) (table : SourceTable)
    (importName : String) (destination : TargetTables) (count : Nat) :
    Prop where
  bounded : count ≤ table.rows.length
  rows : destination.imported platform table importName =
    projections platform table importName (table.rows.take count)
  nothing : count = 0 → ∀ writer, destination.checkpointOf importName
    (compute platform table.rows) writer = none
  something : 0 < count → ∃ writer row chunks,
    destination.checkpointOf importName (compute platform table.rows) writer =
        some row ∧
      CheckpointAt table count chunks row ∧
      ∀ other, other ≠ writer → destination.checkpointOf importName
        (compute platform table.rows) other = none

theorem ImportedTo.length {destination : TargetTables} {count : Nat}
    (reached : ImportedTo platform table importName destination count) :
    (destination.imported platform table importName).length = count := by
  have bounded := reached.bounded
  rw [reached.rows, projections, List.length_map, List.length_take]
  omega

theorem importedTo_of_kept
    (kept : (prefixStore platform table importName initial).Kept shared) :
    ImportedTo platform table importName shared.store
      (shared.store.imported platform table importName).length := by
  have standing : Prefixed platform table importName initial shared :=
    kept.standing
  constructor
  · exact standing.bounded
  · exact standing.rows
  · intro zero writer
    apply standing.others
    intro commit member
    rw [standing.unused.mpr zero] at member
    cases member
  · intro positive
    cases log : shared.log with
    | nil =>
        have zero := standing.unused.mp log
        omega
    | cons commit rest =>
        have member : commit ∈ shared.log := by
          rw [log]
          exact List.mem_cons_self
        obtain ⟨row, found, here⟩ := standing.owner commit member
        refine ⟨commit.writer, row, _, found, here, ?_⟩
        intro other different
        apply standing.others
        intro earlier before same
        apply different
        rw [← same]
        exact kept.single earlier before commit member

/-- A run that has returned has seen all rows imported. -/
theorem race_returned
    (fresh : initial.Fresh importName (compute platform table.rows))
    (race : Race Commit.apply (Rival platform table importName)
      { store := initial, log := [] } sessions shared)
    (returned : .done () ∈ sessions) :
    ImportedTo platform table importName shared.store
      table.rows.length := by
  obtain ⟨kept, running⟩ := race_kept fresh race
  have reached := importedTo_of_kept kept
  have all : (shared.store.imported platform table importName).length =
      table.rows.length := (running (.done ()) returned).done kept
  rw [all] at reached
  exact reached

/-- Runs of both engines with any readers, started at any moment, killed or
failed after any step, with their steps in any order: always a prefix of the
source is imported, each row once, with one checkpoint in all; no step of any
run takes a row back; a run that has returned has seen all rows imported; and
all other imports stay as they were. -/
theorem rivals_exact
    (fresh : initial.Fresh importName (compute platform table.rows))
    (race : Race Commit.apply (Rival platform table importName)
      { store := initial, log := [] } sessions shared) :
    ∃ count, ImportedTo platform table importName shared.store count ∧
      (∀ session ∈ sessions, ∀ next after,
        Session.Step Commit.apply session shared next after →
          ∃ later, count ≤ later ∧
            ImportedTo platform table importName after.store later) ∧
      (.done () ∈ sessions → count = table.rows.length) ∧
      ∀ name digest,
        name ≠ importName ∨ digest ≠ compute platform table.rows →
          shared.store.rowsOf name digest = initial.rowsOf name digest ∧
            ∀ writer, shared.store.checkpointOf name digest writer =
              initial.checkpointOf name digest writer := by
  obtain ⟨kept, running⟩ := race_kept fresh race
  have standing : Prefixed platform table importName initial shared :=
    kept.standing
  refine ⟨_, importedTo_of_kept kept, ?_, ?_, standing.apart⟩
  · intro session member next after step
    obtain ⟨still, grows, _⟩ := (running session member).step kept step
    exact ⟨_, grows, importedTo_of_kept still⟩
  · intro member
    exact (running (.done ()) member).done kept

def TargetTables.empty : TargetTables :=
  { projections := []
    rawCheckpoints := []
    javaCheckpoints := [] }

theorem TargetTables.empty_fresh (name digest : String) :
    TargetTables.empty.Fresh name digest := by
  refine ⟨rfl, ?_⟩
  intro writer
  cases writer with
  | rawSqlx reader => rfl
  | rawJdbc reader => rfl

/-- A paging run of the raw JDBC engine has loaded its checkpoint when a cursor
run of the raw sqlx engine commits its first row. -/
theorem overtaken :
    ∃ sessions shared, Race Commit.apply
        (Rival asciiPlatform RawSqlx.threeRows "import")
        { store := TargetTables.empty, log := [] } sessions shared ∧
      sessions.length = 2 ∧ shared.log.length = 1 ∧
      RawSqlx.rejectConflictingSourceIdentity (RawSqlx.identityOf
        asciiPlatform RawSqlx.threeRows RawSqlx.oneByOne)
          shared.store.rawSqlx = .ok () ∧
      RawJdbc.rejectConflictingSourceIdentity (RawJdbc.identityOf
        asciiPlatform RawSqlx.threeRows RawJdbc.pagesOfTwoConfig)
          shared.store.rawJdbc = .ok () ∧
      ∀ writer, shared.store.checkpointOf "import"
        (compute asciiPlatform RawSqlx.threeRows.rows) writer ≠ none ↔
          writer = .rawSqlx .cursor := by
  have first : Rival asciiPlatform RawSqlx.threeRows "import"
      ((RawJdbc.run asciiPlatform RawSqlx.threeRows
        RawJdbc.pagesOfTwoConfig).within TargetTables.rawJdbc
          Commit.rawJdbc) :=
    @Rival.rawJdbc asciiPlatform RawSqlx.threeRows "import" RawJdbc.pagesOfTwo
      RawJdbc.pagesOfTwoConfig rfl rfl
  have second : Rival asciiPlatform RawSqlx.threeRows "import"
      ((RawSqlx.run asciiPlatform RawSqlx.threeRows RawSqlx.oneByOne).within
        TargetTables.rawSqlx Commit.rawSqlx) :=
    Rival.rawSqlx RawSqlx.oneByOne rfl
  have begins : RawSqlx.Begins asciiPlatform RawSqlx.threeRows
      RawSqlx.oneByOne TargetTables.empty.rawSqlx
      ⟨.cursor, 1, 500, none, none⟩ (none, 0, 0) :=
    ⟨by decide, rfl, rfl⟩
  have answered := RawSqlx.run_accepted begins ⟨rfl, rfl⟩ rfl
  have walked := Session.walk_answered
    ((RawSqlx.run asciiPlatform RawSqlx.threeRows RawSqlx.oneByOne).within
      TargetTables.rawSqlx Commit.rawSqlx)
    { store := TargetTables.empty, log := [] }
    (@Session.Walk.start _ _ _ _ Commit.apply _ _)
  rw [Session.answered_within, answered, Session.within_submitAll] at walked
  have loaded := Session.walk_answered
    ((RawJdbc.run asciiPlatform RawSqlx.threeRows
      RawJdbc.pagesOfTwoConfig).within TargetTables.rawJdbc Commit.rawJdbc)
    { store := TargetTables.empty, log := [] }
    (@Session.Walk.start _ _ _ _ Commit.apply _ _)
  have one := Race.walk Race.nobody first loaded
  have two := Race.walk one second walked
  have three := @Race.step _ _ _ _ _ _ _ _ _ _ 1 _ _ two rfl
    (@Session.Step.commit _ _ _ _ Commit.apply _ _ _ _ rfl)
  refine ⟨_, _, three, rfl, rfl, by decide +kernel, rfl, ?_⟩
  intro writer
  cases writer with
  | rawSqlx reader =>
      cases reader with
      | cursor => exact iff_of_true (by decide +kernel) rfl
      | paging => exact iff_of_false (by decide +kernel) (by decide)
  | rawJdbc reader =>
      cases reader with
      | cursor => exact iff_of_false (by decide +kernel) (by decide)
      | paging => exact iff_of_false (by decide +kernel) (by decide)

theorem rivals_exact_overtaken :
    ∃ sessions shared, Race Commit.apply
        (Rival asciiPlatform RawSqlx.threeRows "import")
        { store := TargetTables.empty, log := [] } sessions shared ∧
      shared.log.length = 1 ∧
      ∃ count, ImportedTo asciiPlatform RawSqlx.threeRows "import"
        shared.store count := by
  obtain ⟨sessions, shared, race, _, one, _⟩ := overtaken
  obtain ⟨count, reached, _⟩ :=
    rivals_exact (TargetTables.empty_fresh _ _) race
  exact ⟨sessions, shared, race, one, count, reached⟩

/-! ### The verifier -/

def ProjectedRow.actual (row : ProjectedRow) : ActualRow :=
  { customerId := row.customerId
    displayName := row.displayName
    loyaltyScore := row.loyaltyScore
    isPremium := row.isPremium
    rowFingerprint := row.rowFingerprint }

/-- The queries of the verifier: the source and a scope, both by customer
id. -/
def TargetTables.tables (destination : TargetTables) (table : SourceTable) :
    Tables :=
  { source := table.rows.map .ok
    destination := fun name digest =>
      ((destination.rowsOf name digest).mergeSort (fun first second =>
        first.customerId ≤ second.customerId)).map
          (fun row => .ok row.actual) }

theorem actual_projectionOf (name digest : String) (row : SourceRow) :
    (projectionOf platform name digest row).actual = projected platform row := by
  unfold projected expectedProjection ExpectedRow.asActual projectionOf
    transformRow transform fingerprint encodeFields ProjectedRow.actual
  simp

/-- The imported rows come in the order of their ids already. -/
theorem projections_sorted {rows : List SourceRow}
    (ascending : rows.Pairwise (fun earlier later =>
      earlier.customerId < later.customerId)) :
    (projections platform table importName rows).mergeSort (fun first second =>
        first.customerId ≤ second.customerId) =
      projections platform table importName rows := by
  apply List.mergeSort_of_pairwise
  apply List.pairwise_map.mpr
  apply ascending.imp
  intro earlier later below
  apply decide_eq_true
  exact Int64.le_of_lt below

/-- A prefix beside the whole: the rows of the prefix pair up. -/
theorem walk_ahead (first rest : List SourceRow) :
    walk (first ++ rest) (first.map (projected platform)) =
      first.map (fun row => .both row (projected platform row)) ++
        rest.map .left := by
  induction first with
  | nil =>
      rw [List.nil_append, List.map_nil, List.map_nil, List.nil_append, walk]
      cases rest with
      | nil =>
          rw [Side.pairUp]
          rfl
      | cons row rest =>
          rw [Side.pairUp]
  | cons row first ih =>
      have same : sourceKey row = actualKey (projected platform row) := rfl
      rw [walk, List.cons_append, List.map_cons, Side.pairUp, if_pos same]
      rw [walk] at ih
      rw [ih]
      rfl

theorem mismatches_ahead (first rest : List SourceRow) :
    (walk (first ++ rest) (first.map (projected platform))).filterMap
        (mismatchOf platform) =
      rest.map (fun row =>
        { customerId := row.customerId
          reason := "missing destination row" }) := by
  have clean : (first.map (fun row =>
      (.both row (projected platform row) : Projection.Step))).filterMap
        (mismatchOf platform) = [] := by
    apply List.filterMap_eq_nil_iff.mpr
    intro step member
    obtain ⟨row, _, same⟩ := List.mem_map.mp member
    have equal : ¬Differs (expectedProjection platform row)
        (projected platform row) := (not_differs_iff rfl).mpr rfl
    rw [← same, mismatchOf, compare_eq_none.mpr equal]
    rfl
  rw [walk_ahead, List.filterMap_append, clean, List.nil_append,
    List.filterMap_map]
  exact congrFun (@List.filterMap_eq_map SourceRow Mismatch (fun row =>
    { customerId := row.customerId
      reason := "missing destination row" })) rest

/-- The verifier over a prefix. -/
theorem verify_prefix {destination : TargetTables} {count : Nat}
    (reached : ImportedTo platform table importName destination count) :
    ∃ printed outcome,
      verify platform (destination.tables table) importName =
        .ok (printed, outcome) ∧
      printed.sourceRows = table.rows.length ∧
      printed.destinationRows = count ∧
      printed.totalMismatches = table.rows.length - count ∧
      printed.mismatches = ((table.rows.drop count).map (fun row =>
        ({ customerId := row.customerId
           reason := "missing destination row" } : Mismatch))).take
        maxRetainedMismatches ∧
      (outcome = .ok () ↔ count = table.rows.length) := by
  have bounded := reached.bounded
  let scope := (table.rows.take count).map (projected platform)
  have reads : (destination.tables table).destination importName
      (compute platform table.rows) = scope.map .ok := by
    change ((destination.imported platform table importName).mergeSort
      _).map _ = _
    rw [reached.rows, projections_sorted (table.ascending.sublist
      (List.take_sublist _ _)), projections, List.map_map, List.map_map]
    apply List.map_congr_left
    intro row _
    exact congrArg Except.ok (actual_projectionOf _ _ row)
  have runs := @verify_runs platform table.rows scope
    (destination.tables table) importName rfl reads
  have counted : Counted platform (walk table.rows scope)
      (mergedState platform table.rows scope) := counted_walk _
  have lefts : (walk table.rows scope).filterMap Side.left? =
      table.rows := Side.filterMap_left _ _ _ _
  have rights : (walk table.rows scope).filterMap Side.right? =
      scope := Side.filterMap_right _ _ _ _
  have missing := @mismatches_ahead platform (table.rows.take count)
    (table.rows.drop count)
  rw [List.take_append_drop] at missing
  have whole : scope = table.rows.map (projected platform) ↔
      count = table.rows.length := by
    constructor
    · intro same
      have lengths := congrArg List.length same
      rw [List.length_map, List.length_map, List.length_take] at lengths
      omega
    · intro all
      change (table.rows.take count).map _ = _
      rw [all, List.take_length]
  have accepted := @conclude_merged platform table.rows scope importName
    (compute platform table.rows)
  refine ⟨_, _, runs, ?_, ?_, ?_, ?_, accepted.trans whole⟩
  · exact counted.source.trans (congrArg List.length lefts)
  · apply counted.destination.trans
    rw [rights, List.length_map, List.length_take]
    omega
  · apply counted.total.trans
    rw [missing, List.length_map, List.length_drop]
  · apply counted.mismatches.trans
    rw [missing]

/-- The verifier during or after any such race: it reports exactly the rows
behind the imported prefix, all as missing, and succeeds exactly when every row
is imported; so it succeeds once a run has returned. -/
theorem rivals_verified
    (fresh : initial.Fresh importName (compute platform table.rows))
    (race : Race Commit.apply (Rival platform table importName)
      { store := initial, log := [] } sessions shared) :
    ∃ count printed outcome,
      ImportedTo platform table importName shared.store count ∧
      verify platform (shared.store.tables table) importName =
        .ok (printed, outcome) ∧
      printed.sourceRows = table.rows.length ∧
      printed.destinationRows = count ∧
      printed.totalMismatches = table.rows.length - count ∧
      printed.mismatches = ((table.rows.drop count).map (fun row =>
        ({ customerId := row.customerId
           reason := "missing destination row" } : Mismatch))).take
        maxRetainedMismatches ∧
      (outcome = .ok () ↔ count = table.rows.length) ∧
      (.done () ∈ sessions → outcome = .ok ()) := by
  obtain ⟨kept, _⟩ := race_kept fresh race
  have reached := importedTo_of_kept kept
  obtain ⟨printed, outcome, runs, source, stored, total, listed, exact_⟩ :=
    verify_prefix reached
  refine ⟨_, printed, outcome, reached, runs, source, stored, total, listed,
    exact_, ?_⟩
  intro returned
  exact exact_.mpr (race_returned fresh race returned).length

theorem rivals_verified_overtaken :
    ∃ sessions shared, Race Commit.apply
        (Rival asciiPlatform RawSqlx.threeRows "import")
        { store := TargetTables.empty, log := [] } sessions shared ∧
      shared.log.length = 1 ∧
      ∃ printed outcome, verify asciiPlatform
          (shared.store.tables RawSqlx.threeRows) "import" =
            .ok (printed, outcome) ∧
        printed.sourceRows = 3 := by
  obtain ⟨sessions, shared, race, _, one, _⟩ := overtaken
  obtain ⟨count, printed, outcome, _, runs, source, _⟩ :=
    rivals_verified (TargetTables.empty_fresh _ _) race
  exact ⟨sessions, shared, race, one, printed, outcome, runs, source⟩

end Projection
