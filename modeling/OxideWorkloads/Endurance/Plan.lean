/-
The deterministic schedule of an endurance campaign: which reader and which
planned failure belongs to a sequence number, and the import name that
identifies the iteration everywhere else.
-/

import OxideWorkloads.Foundation.TextFunctions

namespace Endurance

open Foundation

def maxCampaignIdLen : Nat := 48

def canonicalSourceRows : Nat := 200000
def canonicalSeed : Nat := 20260904
def canonicalChunkSize : Nat := 1000
def canonicalCursorFetchSize : Nat := 500
def canonicalPagingPageSize : Nat := 750

inductive EnduranceReader where
  | cursor
  | paging
  deriving DecidableEq, Repr

def EnduranceReader.asStr : EnduranceReader → String
  | .cursor => "cursor"
  | .paging => "paging"

inductive EnduranceFailure where
  | clean
  | beforeCommit
  | afterCommit
  deriving DecidableEq, Repr

/-- The name under which a planned failure is serialized and reported. -/
def EnduranceFailure.name : EnduranceFailure → String
  | .clean => "clean"
  | .beforeCommit => "before-commit"
  | .afterCommit => "after-commit"

structure IterationPlan where
  campaignId : String
  sequence : Nat
  reader : EnduranceReader
  failure : EnduranceFailure
  importName : String
  deriving DecidableEq, Repr

/-- A byte of a campaign id; the bytes of other characters are not ASCII. -/
def isCampaignChar (char : Char) : Bool :=
  char.isAlphanum || char = '-' || char = '_'

def validateCampaignId (campaignId : String) : Except String Unit :=
  if campaignId.toList = [] then .error "campaign id must not be empty"
  else if maxCampaignIdLen < campaignId.utf8ByteSize then
    .error s!"campaign id must be at most {maxCampaignIdLen} bytes"
  else if !(campaignId.toList.head?.any Char.isAlphanum) then
    .error "campaign id must start with an ASCII alphanumeric character"
  else if !(campaignId.toList.all isCampaignChar) then
    .error ("campaign id may contain only ASCII alphanumeric characters, " ++
      "'-' and '_'")
  else .ok ()

def scheduledReader (sequence : Nat) : EnduranceReader :=
  if sequence % 2 = 1 then .cursor else .paging

def scheduledFailure (sequence : Nat) : EnduranceFailure :=
  if sequence % 50 = 24 then .beforeCommit
  else if sequence % 50 = 49 then .afterCommit
  else .clean

def importName (campaignId : String) (sequence : Nat)
    (reader : EnduranceReader) : String :=
  "endurance_" ++ campaignId ++ "_" ++ Text.zeroPadded 6 sequence ++ "_" ++
    reader.asStr

def planIteration (campaignId : String) (sequence : Nat) :
    Except String IterationPlan :=
  match validateCampaignId campaignId with
  | .error error => .error error
  | .ok () =>
      if sequence = 0 then .error "sequence must be greater than zero"
      else
        .ok
          { campaignId := campaignId
            sequence := sequence
            reader := scheduledReader sequence
            failure := scheduledFailure sequence
            importName :=
              importName campaignId sequence (scheduledReader sequence) }

/-- Cleanup deletes rows only under a name that the schedule can generate. -/
def validateEnduranceImportName (name : String) : Except String Unit :=
  match Text.stripPrefix name "endurance_" with
  | none => .error "import name is not an endurance campaign identity"
  | some rest =>
      match Text.rsplitOnce rest '_' with
      | none => .error "endurance import name is missing reader mode"
      | some (identity, reader) =>
          if reader ≠ "cursor" ∧ reader ≠ "paging" then
            .error "endurance import name has unsupported reader mode"
          else
            match Text.rsplitOnce identity '_' with
            | none => .error "endurance import name is missing sequence"
            | some (campaignId, sequenceText) =>
                match validateCampaignId campaignId with
                | .error error => .error error
                | .ok () =>
                    if sequenceText.utf8ByteSize < 6 ∨
                        !(Text.isAsciiDigits sequenceText) then
                      .error ("endurance import sequence must be a " ++
                        "zero-padded decimal number")
                    else
                      match Text.parseUnsigned u64Max sequenceText with
                      | none => .error "number too large to fit in target type"
                      | some sequence =>
                          if sequence = 0 then
                            .error ("endurance import sequence must be " ++
                              "greater than zero")
                          else
                            match planIteration campaignId sequence with
                            | .error error => .error error
                            | .ok expected =>
                                if name ≠ expected.importName then
                                  .error ("import name does not match the " ++
                                    "canonical endurance identity")
                                else .ok ()

/-! ### What a plan says -/

/-- A campaign id that every entry point accepts. -/
def ValidCampaignId (campaignId : String) : Prop :=
  validateCampaignId campaignId = .ok ()

instance (campaignId : String) : Decidable (ValidCampaignId campaignId) :=
  inferInstanceAs (Decidable (validateCampaignId campaignId = .ok ()))

/-- The plan of a sequence number of a valid campaign. -/
def planOf (campaignId : String) (sequence : Nat) : IterationPlan :=
  { campaignId := campaignId
    sequence := sequence
    reader := scheduledReader sequence
    failure := scheduledFailure sequence
    importName := importName campaignId sequence (scheduledReader sequence) }

theorem planIteration_eq_ok {campaignId : String} {sequence : Nat}
    {plan : IterationPlan} :
    planIteration campaignId sequence = .ok plan ↔
      ValidCampaignId campaignId ∧ 0 < sequence ∧
        plan = planOf campaignId sequence := by
  unfold planIteration ValidCampaignId
  cases valid : validateCampaignId campaignId with
  | error failure => simp
  | ok checked =>
      by_cases zero : sequence = 0
      · simp [zero]
      · have positive : 0 < sequence := Nat.pos_of_ne_zero zero
        simp only [zero, if_false, Except.ok.injEq, positive, true_and]
        exact eq_comm

theorem planIteration_planOf {campaignId : String} {sequence : Nat}
    (valid : ValidCampaignId campaignId) (positive : 0 < sequence) :
    planIteration campaignId sequence = .ok (planOf campaignId sequence) :=
  planIteration_eq_ok.mpr ⟨valid, positive, rfl⟩

theorem underscore_notMem_zeroPadded (width value : Nat) :
    '_' ∉ (Text.zeroPadded width value).toList := by
  intro member
  have digits := Text.zeroPadded_isAsciiDigits width value
  unfold Text.isAsciiDigits at digits
  have digit := List.all_eq_true.mp digits '_' member
  exact absurd digit (by decide)

theorem underscore_notMem_reader (reader : EnduranceReader) :
    '_' ∉ reader.asStr.toList := by
  cases reader <;> decide

theorem length_le_utf8ByteSize (text : String) :
    text.toList.length ≤ text.utf8ByteSize := by
  have sizes : ∀ chars : List Char,
      chars.length ≤ (String.ofList chars).utf8ByteSize := by
    intro chars
    induction chars with
    | nil => simp
    | cons char rest ih =>
        have positive := char.utf8Size_pos
        rw [show char :: rest = [char] ++ rest from rfl, String.ofList_append,
          String.utf8ByteSize_append]
        simp only [List.length_append, List.length_singleton]
        rw [← String.singleton_eq_ofList, String.utf8ByteSize_singleton]
        omega
  have all := sizes text.toList
  rw [String.ofList_toList] at all
  exact all

theorem zeroPadded_byteSize (value : Nat) :
    6 ≤ (Text.zeroPadded 6 value).utf8ByteSize := by
  have long : 6 ≤ (Text.zeroPadded 6 value).toList.length := by
    rw [Text.zeroPadded_toList]
    simp only [List.length_append, List.length_replicate]
    omega
  exact Nat.le_trans long (length_le_utf8ByteSize _)

/-- The import name of every plan passes the check in front of cleanup. -/
theorem validateEnduranceImportName_importName {campaignId : String}
    {sequence : Nat} (valid : ValidCampaignId campaignId)
    (positive : 0 < sequence) (bounded : sequence ≤ u64Max) :
    validateEnduranceImportName
      (importName campaignId sequence (scheduledReader sequence)) = .ok () := by
  have stripped : Text.stripPrefix
      (importName campaignId sequence (scheduledReader sequence))
      "endurance_" = some (campaignId ++ "_" ++ Text.zeroPadded 6 sequence ++
        "_" ++ (scheduledReader sequence).asStr) := by
    rw [← Text.stripPrefix_append "endurance_"]
    simp only [importName, String.append_assoc]
  have mode : Text.rsplitOnce (campaignId ++ "_" ++
      Text.zeroPadded 6 sequence ++ "_" ++ (scheduledReader sequence).asStr)
      '_' = some (campaignId ++ "_" ++ Text.zeroPadded 6 sequence,
        (scheduledReader sequence).asStr) :=
    Text.rsplitOnce_append _ _ '_' (underscore_notMem_reader _)
  have identity : Text.rsplitOnce (campaignId ++ "_" ++
      Text.zeroPadded 6 sequence) '_' =
        some (campaignId, Text.zeroPadded 6 sequence) :=
    Text.rsplitOnce_append _ _ '_' (underscore_notMem_zeroPadded 6 sequence)
  have known : ¬((scheduledReader sequence).asStr ≠ "cursor" ∧
      (scheduledReader sequence).asStr ≠ "paging") := by
    cases scheduledReader sequence <;> decide
  have padded : ¬((Text.zeroPadded 6 sequence).utf8ByteSize < 6 ∨
      (!(Text.isAsciiDigits (Text.zeroPadded 6 sequence))) = true) := by
    rw [Text.zeroPadded_isAsciiDigits]
    have long := zeroPadded_byteSize sequence
    simp
    omega
  have checked : validateCampaignId campaignId = .ok () := valid
  have plan := planIteration_planOf valid positive
  have nonzero : sequence ≠ 0 := Nat.pos_iff_ne_zero.mp positive
  simp only [validateEnduranceImportName, stripped, mode, known, if_false,
    identity, checked, padded, Text.parseUnsigned_zeroPadded 6 bounded,
    nonzero, plan]
  simp [planOf]

/-- The schedule repeats: the twenty-fourth and the forty-ninth of every fifty
iterations crash. -/
example : (List.range' 20 32).filter (fun sequence =>
    scheduledFailure sequence ≠ .clean) = [24, 49] := by decide

end Endurance
