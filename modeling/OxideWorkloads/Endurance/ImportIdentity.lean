/-
The import name of an iteration names that iteration and no other, and cleanup
deletes the rows of one iteration.
-/

import OxideWorkloads.Endurance.ResumeScans
import OxideWorkloads.Foundation.CrashRun

namespace Endurance

open Foundation
open Foundation.CrashRun

/-! ### Names -/

theorem importName_strips (campaignId : String) (sequence : Nat)
    (reader : EnduranceReader) :
    Text.stripPrefix (importName campaignId sequence reader) "endurance_" =
      some (campaignId ++ "_" ++ Text.zeroPadded 6 sequence ++ "_" ++
        reader.asStr) := by
  rw [← Text.stripPrefix_append "endurance_"]
  simp only [importName, String.append_assoc]

/-- The last two separators of a name are those of its sequence. -/
theorem identity_splits (campaignId : String) (sequence : Nat)
    (reader : EnduranceReader) :
    Text.rsplitOnce (campaignId ++ "_" ++ Text.zeroPadded 6 sequence ++ "_" ++
        reader.asStr) '_' =
      some (campaignId ++ "_" ++ Text.zeroPadded 6 sequence, reader.asStr) ∧
    Text.rsplitOnce (campaignId ++ "_" ++ Text.zeroPadded 6 sequence) '_' =
      some (campaignId, Text.zeroPadded 6 sequence) := by
  constructor
  · exact Text.rsplitOnce_append _ _ '_' (underscore_notMem_reader reader)
  · exact Text.rsplitOnce_append _ _ '_'
      (underscore_notMem_zeroPadded 6 sequence)

/-- Ids may hold separators and digits, and sequences may be longer than their
padding: the name still tells both. -/
theorem importName_injective {campaignId other : String}
    {sequence number : Nat} {reader mode : EnduranceReader}
    (same : importName campaignId sequence reader =
      importName other number mode) :
    campaignId = other ∧ sequence = number := by
  have rests := congrArg
    (fun name => Text.stripPrefix name "endurance_") same
  simp only [importName_strips, Option.some.injEq] at rests
  have modes := congrArg (fun rest => Text.rsplitOnce rest '_') rests
  simp only [(identity_splits campaignId sequence reader).1,
    (identity_splits other number mode).1, Option.some.injEq,
    Prod.mk.injEq] at modes
  have identities := congrArg
    (fun identity => Text.rsplitOnce identity '_') modes.1
  simp only [(identity_splits campaignId sequence reader).2,
    (identity_splits other number mode).2, Option.some.injEq,
    Prod.mk.injEq] at identities
  exact ⟨identities.1, Text.zeroPadded_injective identities.2⟩

/-- The check in front of cleanup accepts the planned names and no others. -/
theorem validateEnduranceImportName_iff {name : String} :
    validateEnduranceImportName name = .ok () ↔
      ∃ campaignId sequence plan, sequence ≤ u64Max ∧
        planIteration campaignId sequence = .ok plan ∧
          name = plan.importName := by
  constructor
  · intro accepted
    unfold validateEnduranceImportName at accepted
    cases stripped : Text.stripPrefix name "endurance_" with
    | none =>
        simp only [stripped] at accepted
        cases accepted
    | some rest =>
    simp only [stripped] at accepted
    cases modes : Text.rsplitOnce rest '_' with
    | none =>
        simp only [modes] at accepted
        cases accepted
    | some parts =>
    obtain ⟨identity, reader⟩ := parts
    simp only [modes] at accepted
    by_cases unsupported : reader ≠ "cursor" ∧ reader ≠ "paging"
    · rw [if_pos unsupported] at accepted
      cases accepted
    rw [if_neg unsupported] at accepted
    cases identities : Text.rsplitOnce identity '_' with
    | none =>
        simp only [identities] at accepted
        cases accepted
    | some parts =>
    obtain ⟨campaignId, sequenceText⟩ := parts
    simp only [identities] at accepted
    cases valid : validateCampaignId campaignId with
    | error failure =>
        simp only [valid] at accepted
        cases accepted
    | ok checked =>
    simp only [valid] at accepted
    by_cases unpadded : sequenceText.utf8ByteSize < 6 ∨
        (!Text.isAsciiDigits sequenceText) = true
    · rw [if_pos unpadded] at accepted
      cases accepted
    rw [if_neg unpadded] at accepted
    cases parses : Text.parseUnsigned u64Max sequenceText with
    | none =>
        simp only [parses] at accepted
        cases accepted
    | some sequence =>
    simp only [parses] at accepted
    by_cases zero : sequence = 0
    · rw [if_pos zero] at accepted
      cases accepted
    rw [if_neg zero] at accepted
    cases plans : planIteration campaignId sequence with
    | error failure =>
        simp only [plans] at accepted
        cases accepted
    | ok expected =>
    simp only [plans] at accepted
    by_cases different : name ≠ expected.importName
    · rw [if_pos different] at accepted
      cases accepted
    exact ⟨campaignId, sequence, expected, parseUnsigned_bounded parses, plans,
      Decidable.of_not_not different⟩
  · intro planned
    obtain ⟨campaignId, sequence, plan, bounded, plans, same⟩ := planned
    obtain ⟨valid, positive, whole⟩ := planIteration_eq_ok.mp plans
    subst whole
    rw [same]
    exact validateEnduranceImportName_importName valid positive bounded

/-! ### Cleanup on the table -/

/-- A row of the business projection. -/
structure BusinessRow (Rest : Type) where
  importName : String
  rest : Rest

/-- What the database does with the statement.  A statement that fails may
have been carried out. -/
structure DeleteAnswer where
  unconnected : Option String
  applied : Bool
  fault : Option String

variable {Rest : Type}

def deleteImport (importName : String) (table : List (BusinessRow Rest)) :
    List (BusinessRow Rest) :=
  table.filter (fun row => row.importName ≠ importName)

/-- `cleanupBusiness`, with the table that it deletes from. -/
def cleanupTable (importName : String) (answer : DeleteAnswer) :
    CrashRun (List (BusinessRow Rest)) String Nat := do
  ofExcept (validateEnduranceImportName importName)
  match answer.unconnected with
  | some error => fail error
  | none => do
      let before ← CrashRun.state
      if answer.applied then modify (deleteImport importName) else pure ()
      match answer.fault with
      | some error => fail error
      | none => do
          let after ← CrashRun.state
          return before.length - after.length

/-- Cleanup either leaves the table as it is, or deletes all rows under a name
that it accepts. -/
theorem cleanupTable_deletes (importName : String) (answer : DeleteAnswer)
    (table : List (BusinessRow Rest)) :
    (cleanupTable importName answer table).2 = table ∨
      validateEnduranceImportName importName = .ok () ∧
        (cleanupTable importName answer table).2 =
          deleteImport importName table := by
  unfold cleanupTable
  cases accepted : validateEnduranceImportName importName with
  | error failure => exact Or.inl rfl
  | ok checked =>
      obtain ⟨unconnected, applied, fault⟩ := answer
      cases unconnected with
      | some error => exact Or.inl rfl
      | none =>
          cases applied with
          | false => cases fault <;> exact Or.inl rfl
          | true => cases fault <;> exact Or.inr ⟨rfl, rfl⟩

/-- The rows of an iteration. -/
def rowsOf (plan : IterationPlan) (table : List (BusinessRow Rest)) :
    List (BusinessRow Rest) :=
  table.filter (fun row => row.importName = plan.importName)

theorem rowsOf_deleteImport {plan : IterationPlan} {importName : String}
    (different : plan.importName ≠ importName)
    (table : List (BusinessRow Rest)) :
    rowsOf plan (deleteImport importName table) = rowsOf plan table := by
  unfold rowsOf deleteImport
  rw [List.filter_filter]
  apply List.filter_congr
  intro row _
  by_cases own : row.importName = plan.importName
  · simp [own, different]
  · simp [own]

/-- The check accepts the planned names and no others, no two iterations share
a name, and a cleanup that changes the table deletes the rows of one iteration
and keeps all others. -/
theorem importIdentity_exact :
    (∀ name, validateEnduranceImportName name = .ok () ↔
      ∃ campaignId sequence plan, sequence ≤ u64Max ∧
        planIteration campaignId sequence = .ok plan ∧
          name = plan.importName) ∧
    (∀ campaignId sequence plan other number otherPlan,
      planIteration campaignId sequence = .ok plan →
        planIteration other number = .ok otherPlan →
          plan.importName = otherPlan.importName →
            campaignId = other ∧ sequence = number) ∧
    ∀ (name : String) (answer : DeleteAnswer)
      (table : List (BusinessRow Rest)),
      (cleanupTable name answer table).2 ≠ table →
        ∃ campaignId sequence plan, sequence ≤ u64Max ∧
          planIteration campaignId sequence = .ok plan ∧
          name = plan.importName ∧
          (cleanupTable name answer table).2 =
            table.filter (fun row => row.importName ≠ plan.importName) ∧
          ∀ other number otherPlan,
            planIteration other number = .ok otherPlan →
              (other, number) ≠ (campaignId, sequence) →
                rowsOf otherPlan (cleanupTable name answer table).2 =
                  rowsOf otherPlan table := by
  have injective : ∀ campaignId sequence plan other number otherPlan,
      planIteration campaignId sequence = .ok plan →
        planIteration other number = .ok otherPlan →
          plan.importName = otherPlan.importName →
            campaignId = other ∧ sequence = number := by
    intro campaignId sequence plan other number otherPlan plans otherPlans same
    obtain ⟨_, _, whole⟩ := planIteration_eq_ok.mp plans
    obtain ⟨_, _, otherWhole⟩ := planIteration_eq_ok.mp otherPlans
    rw [whole, otherWhole] at same
    exact importName_injective same
  constructor
  · exact fun _ => validateEnduranceImportName_iff
  constructor
  · exact injective
  · intro name answer table changed
    obtain ⟨accepted, deletes⟩ :=
      (cleanupTable_deletes name answer table).resolve_left changed
    obtain ⟨campaignId, sequence, plan, bounded, plans, same⟩ :=
      validateEnduranceImportName_iff.mp accepted
    refine ⟨campaignId, sequence, plan, bounded, plans, same, ?_, ?_⟩
    · rw [deletes, same]
      rfl
    · intro other number otherPlan otherPlans different
      rw [deletes]
      apply rowsOf_deleteImport
      intro equal
      obtain ⟨ids, sequences⟩ := injective other number otherPlan campaignId
        sequence plan otherPlans plans (equal.trans same)
      exact different (Prod.ext ids sequences)

theorem cleanupTable_applied {importName : String}
    (accepted : validateEnduranceImportName importName = .ok ())
    (table : List (BusinessRow Rest)) :
    (cleanupTable importName
        { unconnected := none, applied := true, fault := none } table).2 =
      deleteImport importName table := by
  unfold cleanupTable
  rw [accepted]
  rfl

/-- The rows of a campaign whose id looks like a name of another one stay. -/
theorem importIdentity_exact_nested :
    let table : List (BusinessRow Nat) :=
      [{ importName := (planOf "a" 1).importName, rest := 7 },
        { importName := (planOf "a_000001" 2).importName, rest := 8 }]
    rowsOf (planOf "a_000001" 2)
        (cleanupTable (planOf "a" 1).importName
          { unconnected := none, applied := true, fault := none } table).2 =
      rowsOf (planOf "a_000001" 2) table := by
  intro table
  have nested : planIteration "a_000001" 2 = .ok (planOf "a_000001" 2) :=
    planIteration_planOf (by decide) (by decide)
  have own : planIteration "a" 1 = .ok (planOf "a" 1) :=
    planIteration_planOf (by decide) (by decide)
  have accepted : validateEnduranceImportName (planOf "a" 1).importName =
      .ok () :=
    validateEnduranceImportName_importName (by decide) (by decide) (by decide)
  have changed : (cleanupTable (planOf "a" 1).importName
      { unconnected := none, applied := true, fault := none } table).2 ≠
        table := by
    intro same
    rw [cleanupTable_applied accepted] at same
    have first : table[0] ∈ deleteImport (planOf "a" 1).importName table := by
      rw [same]
      exact List.mem_cons_self
    have kept := List.of_mem_filter first
    exact absurd rfl (of_decide_eq_true kept)
  obtain ⟨campaignId, sequence, plan, _, plans, same, _, others⟩ :=
    (@importIdentity_exact Nat).2.2 _ _ table changed
  obtain ⟨ids, sequences⟩ := (@importIdentity_exact Nat).2.1 "a" 1 _ _ _ _ own
    plans same
  apply others "a_000001" 2 _ nested
  rw [← ids, ← sequences]
  decide

end Endurance
