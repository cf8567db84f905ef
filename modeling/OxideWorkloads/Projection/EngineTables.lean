/-
Where the four engines stop over a source table.

Three of them read every row of the table.  JBeret begins behind the id zero, so
it is given the rows with positive ids only; and each row that it is given is
projected before the next one is read.
-/

import OxideWorkloads.Projection.JBeretReader

namespace Projection

open Foundation
open Foundation.Checks

/-! ### JBeret -/

namespace JBeret

/-- Properties of a job that its reader accepts. -/
structure ValidProperties extends ReaderProperties where
  mode : readerMode = "cursor" ∨ readerMode = "paging"
  fetches : 1 ≤ fetchSize ∧ fetchSize ≤ maxReadBatchSize
  pages : 1 ≤ pageSize ∧ pageSize ≤ maxReadBatchSize

variable (platform : Platform) (importName sourceDigest : String)
  (table : SourceTable)

/-- Read and project one item after another, so many at most: the row that is
rejected, if there is one. -/
def projectItems : Nat → PostgresReader → Except String (Option SourceRow)
  | 0, _ => .ok none
  | count + 1, reader => do
      let (item, reader) ← reader.readItem table
      match item with
      | none => return none
      | some source =>
          match project platform importName sourceDigest source with
          | .error _ => return some source
          | .ok _ => projectItems count reader

/-- The row at which a job stops that begins without a checkpoint. -/
def stopsAt (properties : ReaderProperties) :
    Except String (Option SourceRow) := do
  let reader ← openReader table properties .null
  projectItems platform importName sourceDigest table
    (table.rows.length + 1) reader

variable {platform importName sourceDigest table}

theorem projectItems_eq {reader : PostgresReader} (sound : Sound table reader)
    {count : Nat}
    (enough : (table.after (some reader.lastCustomerId)).length < count) :
    projectItems platform importName sourceDigest table count reader =
      .ok ((table.after (some reader.lastCustomerId)).find? (fun row =>
        (accepted (project platform importName sourceDigest row)).isNone)) := by
  induction count generalizing reader with
  | zero => omega
  | succ count ih =>
      obtain ⟨next, item, kept, behind⟩ := readItem_takes sound
      rw [projectItems, item]
      cases remaining : table.after (some reader.lastCustomerId) with
      | nil => rfl
      | cons source rest =>
          rw [remaining] at behind enough
          rw [List.find?_cons]
          change (match project platform importName sourceDigest source with
            | .error _ => _
            | .ok _ => _) = _
          cases projected : project platform importName sourceDigest source with
          | error error => rfl
          | ok row =>
              have further := ih kept (by
                rw [behind]
                exact Nat.lt_of_succ_lt_succ enough)
              rw [behind] at further
              exact further

/-- JBeret stops at the first row with a positive id that it rejects. -/
theorem stopsAt_eq (properties : ValidProperties) :
    stopsAt platform importName sourceDigest table
        properties.toReaderProperties =
      .ok ((table.rows.filter (fun row => 0 < row.customerId)).find?
        (fun row => (accepted
          (project platform importName sourceDigest row)).isNone)) := by
  obtain ⟨reader, opens, sound, position⟩ := @openReader_sound table
    properties.readerMode properties.fetchSize properties.pageSize .null 0
    properties.mode properties.fetches properties.pages rfl (by decide)
  have first : table.after (some reader.lastCustomerId) =
      table.rows.filter (fun row => 0 < row.customerId) := by
    rw [position]
    rfl
  have enough : (table.after (some reader.lastCustomerId)).length <
      table.rows.length + 1 := by
    rw [first]
    exact Nat.lt_succ_of_le (List.length_filter_le _ _)
  unfold stopsAt
  rw [opens]
  change projectItems _ _ _ _ _ reader = _
  rw [projectItems_eq sound enough, first]

end JBeret

/-! ### All engines -/

section Tables

variable (platform : Platform) (importName sourceDigest : String)

/-- The first row that an engine rejects, of those that it is given. -/
def stopsAt (engine : SourceRow → Option TransformedFields)
    (rows : List SourceRow) : Option SourceRow :=
  rows.find? (fun row => (engine row).isNone)

/-- The rows at which the engines stop with an error, of one table. -/
def stops (table : SourceTable) (properties : JBeret.ReaderProperties) :
    List (Except String (Option SourceRow)) :=
  [.ok (stopsAt (fun row => accepted (CustomerProjector.process platform
      { importName, sourceDigest } row)) table.rows),
    .ok (stopsAt (fun row => accepted
      (RawSqlx.project platform importName sourceDigest row)) table.rows),
    .ok (stopsAt (fun row => accepted (RawJdbc.project platform
      { importName, sourceDigest } row)) table.rows),
    JBeret.stopsAt platform importName sourceDigest table properties]

/-- All engines stop at the same row, or none stops. -/
def StopAlike (table : SourceTable) (properties : JBeret.ReaderProperties) :
    Prop :=
  ∀ first ∈ stops platform importName sourceDigest table properties,
    ∀ second ∈ stops platform importName sourceDigest table properties,
      first = second

end Tables

/-- Two searches among distinct entries find the same one if and only if before
every entry on which they differ there is one that both accept. -/
theorem find?_eq_iff {α : Type} {first second : α → Bool} {rows : List α}
    (distinct : rows.Nodup) :
    rows.find? first = rows.find? second ↔
      ∀ before row after, rows = before ++ row :: after →
        first row ≠ second row →
          ∃ earlier ∈ before, first earlier = true ∧ second earlier = true := by
  induction rows with
  | nil => simp
  | cons head rest ih =>
      obtain ⟨fresh, later⟩ := List.nodup_cons.mp distinct
      have absent : ∀ test : α → Bool, rest.find? test ≠ some head :=
        fun test found => fresh (List.mem_of_find?_eq_some found)
      rw [List.find?_cons, List.find?_cons]
      by_cases differ : first head ≠ second head
      · constructor
        · intro same
          exfalso
          cases one : first head with
          | true =>
              have two : second head = false := by
                rw [one] at differ
                exact Bool.eq_false_iff.mpr (Ne.symm differ)
              rw [one, two] at same
              exact absent second same.symm
          | false =>
              have two : second head = true := by
                rw [one] at differ
                exact Bool.eq_true_of_not_eq_false (Ne.symm differ)
              rw [one, two] at same
              exact absent first same
        · intro earlier
          obtain ⟨none_, member, _⟩ := earlier [] head rest rfl differ
          cases member
      · have same := Decidable.not_not.mp differ
        rw [← same]
        cases one : first head with
        | true =>
            simp only [true_iff]
            intro before row after split differs
            cases before with
            | nil =>
                have heads := (List.cons.inj split).1
                rw [← heads] at differs
                exact absurd same differs
            | cons other others =>
                have heads := (List.cons.inj split).1
                rw [← heads]
                exact ⟨head, List.mem_cons_self, one, same ▸ one⟩
        | false =>
            dsimp only
            rw [ih later]
            constructor
            · intro tail before row after split differs
              cases before with
              | nil =>
                  have heads := (List.cons.inj split).1
                  rw [← heads] at differs
                  exact absurd same differs
              | cons other others =>
                  obtain ⟨earlier, member, both⟩ :=
                    tail others row after (List.cons.inj split).2 differs
                  exact ⟨earlier, List.mem_cons_of_mem _ member, both⟩
            · intro whole before row after split differs
              obtain ⟨earlier, member, both⟩ :=
                whole (head :: before) row after (congrArg _ split) differs
              rcases List.mem_cons.mp member with same | inside
              · rw [same, one] at both
                cases both.1
              · exact ⟨earlier, inside, both⟩

section Agreement

variable {platform : Platform} {importName sourceDigest : String}
  {table : SourceTable}

theorem outcome_isNone (rejected : String → Bool) (row : SourceRow) :
    (outcome platform rejected row).isNone = rejected row.fullName := by
  unfold outcome
  cases rejected row.fullName <;> rfl

/-- The engines as searches for the first rejected row. -/
theorem stops_eq (properties : JBeret.ValidProperties) :
    stops platform importName sourceDigest table
        properties.toReaderProperties =
      [.ok (table.rows.find? (fun row => Text.isBlank row.fullName)),
        .ok (table.rows.find? (fun row => Text.isBlank row.fullName)),
        .ok (table.rows.find? (fun row => javaBlank row.fullName)),
        .ok (table.rows.find? (fun row =>
          decide (0 < row.customerId) && javaBlank row.fullName))] := by
  have workload := process_accepted platform { importName, sourceDigest }
  have sqlx := rawSqlx_accepted platform importName sourceDigest
  have java := java_accepted platform importName sourceDigest
  have white := @outcome_isNone platform Text.isBlank
  have low := @outcome_isNone platform javaBlank
  unfold outcome at white low
  unfold stops stopsAt
  rw [JBeret.stopsAt_eq, List.find?_filter]
  simp only [workload, sqlx, RawJdbc.project, JBeret.project, java, white, low,
    Bool.decide_and, Bool.decide_eq_true]

theorem stopAlike_iff (properties : JBeret.ValidProperties) :
    StopAlike platform importName sourceDigest table
        properties.toReaderProperties ↔
      table.rows.find? (fun row => Text.isBlank row.fullName) =
          table.rows.find? (fun row => javaBlank row.fullName) ∧
        table.rows.find? (fun row => javaBlank row.fullName) =
          table.rows.find? (fun row =>
            decide (0 < row.customerId) && javaBlank row.fullName) := by
  unfold StopAlike
  rw [stops_eq]
  simp only [List.forall_mem_cons, List.not_mem_nil, Except.ok.injEq]
  constructor
  · intro all
    exact ⟨all.1.2.2.1, all.2.2.1.2.2.2.1⟩
  · intro parts
    simp [parts.1, ← parts.2]

theorem SourceTable.nodup (table : SourceTable) : table.rows.Nodup :=
  table.ascending.imp (fun {earlier later} below same => by
    rw [same] at below
    exact Int64.lt_irrefl below)

/-- No row before one without a positive id has a positive id. -/
theorem before_nonpositive {before after : List SourceRow}
    {row earlier : SourceRow} (split : table.rows = before ++ row :: after)
    (nonpositive : row.customerId ≤ 0) (member : earlier ∈ before) :
    earlier.customerId ≤ 0 := by
  have ascending := table.ascending
  rw [split] at ascending
  have below := (List.pairwise_append.mp ascending).2.2 earlier member row
    List.mem_cons_self
  exact Int64.le_of_lt (Int64.lt_of_lt_of_le below nonpositive)

/-- JBeret stops where raw JDBC does unless raw JDBC rejects a row that JBeret
is never given. -/
theorem positive_alike_iff :
    table.rows.find? (fun row => javaBlank row.fullName) =
        table.rows.find? (fun row =>
          decide (0 < row.customerId) && javaBlank row.fullName) ↔
      ∀ row ∈ table.rows, row.customerId ≤ 0 →
        javaBlank row.fullName = false := by
  rw [find?_eq_iff table.nodup]
  constructor
  · intro alike row member nonpositive
    cases blank : javaBlank row.fullName with
    | false => rfl
    | true =>
        obtain ⟨before, after, split⟩ := List.append_of_mem member
        have differ : javaBlank row.fullName ≠
            (decide (0 < row.customerId) && javaBlank row.fullName) := by
          rw [blank, decide_eq_false (Int64.not_lt.mpr nonpositive)]
          decide
        obtain ⟨earlier, inside, _, both⟩ :=
          alike before row after split differ
        have positive := of_decide_eq_true (Bool.and_eq_true_iff.mp both).1
        exact absurd positive
          (Int64.not_lt.mpr (before_nonpositive split nonpositive inside))
  · intro given before row after split differ
    exfalso
    apply differ
    have member : row ∈ table.rows := by
      rw [split]
      exact List.mem_append_right _ List.mem_cons_self
    by_cases positive : 0 < row.customerId
    · rw [decide_eq_true positive, Bool.true_and]
    · rw [given row member (Int64.not_lt.mp positive), Bool.and_false]

/-- The engines agree on a row exactly if its name is not divided.  Over a table
they stop alike exactly if no row that JBeret is never given has a name that the
Java engines reject, and they have all stopped before the first divided name. -/
theorem engines_agree (platform : Platform)
    (importName sourceDigest : String) :
    (∀ row, Agree platform importName sourceDigest row ↔
        ¬ Divided row.fullName) ∧
      ∀ (table : SourceTable) (properties : JBeret.ValidProperties),
        StopAlike platform importName sourceDigest table
            properties.toReaderProperties ↔
          (∀ row ∈ table.rows, row.customerId ≤ 0 →
            javaBlank row.fullName = false) ∧
          ∀ before row after, table.rows = before ++ row :: after →
            Divided row.fullName →
              ∃ earlier ∈ before, Text.isBlank earlier.fullName = true ∧
                ¬ Divided earlier.fullName := by
  refine ⟨agree_iff platform importName sourceDigest, ?_⟩
  intro table properties
  rw [stopAlike_iff, positive_alike_iff, find?_eq_iff table.nodup, and_comm]
  have both : ∀ row : SourceRow,
      Text.isBlank row.fullName = true ∧ javaBlank row.fullName = true ↔
        Text.isBlank row.fullName = true ∧ ¬ Divided row.fullName := by
    intro row
    rw [divided_iff]
    cases Text.isBlank row.fullName <;> cases javaBlank row.fullName <;>
      decide
  simp only [both, divided_iff]

end Agreement

end Projection
