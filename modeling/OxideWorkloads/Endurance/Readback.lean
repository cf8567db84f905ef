/-
What the store writes is what the scans accept.

An event line, an iteration singleton and the campaign record come back as
they were written; a temporary file never passes for a record.
-/

import OxideWorkloads.Endurance.Evidence

namespace Endurance

open Foundation
open Foundation.LineLog (Bytes)
open Foundation.Checks
open Foundation.JsonGrammar (decodeUtf8 objectFraming nestingLimit
  recursiveReader)

variable {setting : Setting} {campaignId : String}

/-! ### Event lines -/

/-- The record of one event. -/
def eventOf (campaignId : String) (sequence : Nat) (phase : String) :
    EventRecord :=
  { schema := eventSchema
    schemaVersion := schemaVersion
    campaignId := campaignId
    sequence := sequence
    phase := phase }

/-- A detail that fits into an event line. -/
def PlainDetail (detail : Json) : Prop := detail.plain 126 = true

/-- The text of an event of one sequence and phase. -/
def IsEvent (campaignId : String) (sequence : Nat) (phase : String)
    (text : Bytes) : Prop :=
  ∃ timestamp detail, timestamp ≤ u64Max ∧ PlainDetail detail ∧
    text = Json.compact (eventJson timestamp campaignId sequence phase detail)

theorem eventRecord_eventJson (timestamp : Nat) {sequence : Nat}
    (phase : String) (detail : Json) (bounded : sequence ≤ u64Max) :
    EventRecord.deserialize
        (eventJson timestamp campaignId sequence phase detail) =
      .ok (eventOf campaignId sequence phase) := by
  have version : decodeUnsigned u32Max (.ofNat schemaVersion) =
      .ok schemaVersion := by decide
  have number : decodeUnsigned u64Max (.ofNat sequence) = .ok sequence := by
    simp [decodeUnsigned, Json.ofNat, bounded]
  simp [EventRecord.deserialize, eventJson, recordFields, fieldValues,
    fieldValue, version, number, decodeString, eventOf]

theorem IsEvent.plain {sequence : Nat} {phase : String} {text : Bytes}
    (isEvent : IsEvent campaignId sequence phase text)
    (bounded : sequence ≤ u64Max) :
    ∃ timestamp detail,
      text = Json.compact
        (eventJson timestamp campaignId sequence phase detail) ∧
      (eventJson timestamp campaignId sequence phase detail).plain
        nestingLimit = true := by
  obtain ⟨timestamp, detail, inTime, plainDetail, same⟩ := isEvent
  exact ⟨timestamp, detail, same,
    plain_event campaignId phase bounded inTime plainDetail⟩

/-- Event lines are records of the log. -/
theorem IsEvent.record {sequence : Nat} {phase : String} {text : Bytes}
    (isEvent : IsEvent campaignId sequence phase text)
    (bounded : sequence ≤ u64Max) : objectFraming.record text := by
  obtain ⟨timestamp, detail, rfl, isPlain⟩ := isEvent.plain bounded
  exact ⟨JsonGrammar.objectText_compact
    (show "campaign_id".toList.head? = some 'c' from rfl) (by decide) isPlain,
    JsonGrammar.compact_line isPlain⟩

/-- Every event line is read back. -/
theorem IsEvent.accepted {sequence : Nat} {phase : String} {text : Bytes}
    (isEvent : IsEvent campaignId sequence phase text)
    (positive : sequence ≠ 0) (bounded : sequence ≤ u64Max)
    (named : phase ≠ "") :
    AcceptedEvent setting campaignId text
      (eventOf campaignId sequence phase) := by
  have isRecord := isEvent.record bounded
  obtain ⟨timestamp, detail, rfl, isPlain⟩ := isEvent.plain bounded
  obtain ⟨shown, decoded, _, notBlank⟩ :=
    JsonGrammar.decodeUtf8_object isPlain isRecord.1
  refine ⟨⟨shown, decoded, notBlank⟩, ?_, rfl, rfl, rfl, positive, named⟩
  rw [Setting.parseRecord, setting.serde.record.read_compact isPlain]
  exact eventRecord_eventJson timestamp phase detail bounded

theorem IsEvent.read {sequence : Nat} {phase : String} {text : Bytes}
    (isEvent : IsEvent campaignId sequence phase text)
    (positive : sequence ≠ 0) (bounded : sequence ≤ u64Max)
    (named : phase ≠ "") :
    readEvent setting campaignId text =
      some (eventOf campaignId sequence phase) :=
  readEvent_eq_some.mpr (isEvent.accepted positive bounded named)

/-! ### Iteration singletons -/

/-- The content of the singleton of a sequence. -/
def IsIteration (campaignId : String) (sequence : Nat)
    (execution : RecordedExecutionResult) (content : Bytes) : Prop :=
  ∃ timestamp, timestamp ≤ u64Max ∧
    content = Json.pretty
      (iterationJson timestamp campaignId sequence execution) ++
        [LineLog.newline]

def RecordedExecutionResult.sequence : RecordedExecutionResult → Nat
  | .clean result => result.sequence
  | .crash result => result.sequence

theorem RecordedExecutionResult.Bounded.sequence_le
    {execution : RecordedExecutionResult} (bounded : execution.Bounded) :
    execution.sequence ≤ u64Max := by
  cases execution <;> exact bounded.1

theorem execution_sequence {execution : RecordedExecutionResult}
    (bounded : execution.Bounded) :
    ((execution.toJson.get "result").bind (fun result =>
      result.get "sequence")).bind Json.asU64 = some execution.sequence := by
  have small := bounded.sequence_le
  cases execution with
  | clean result =>
      simp only [RecordedExecutionResult.sequence] at small ⊢
      simp [RecordedExecutionResult.toJson, CleanIterationResult.toJson,
        Json.get, Json.ofNat, Json.asU64, small]
  | crash result =>
      simp only [RecordedExecutionResult.sequence] at small ⊢
      simp [RecordedExecutionResult.toJson, CrashIterationResult.toJson,
        Json.get, Json.ofNat, Json.asU64, small]

theorem iterationRecord_iterationJson (timestamp : Nat) {sequence : Nat}
    (execution : RecordedExecutionResult) (bounded : sequence ≤ u64Max) :
    IterationRecord.deserialize
        (iterationJson timestamp campaignId sequence execution) =
      .ok
        { schema := iterationSchema
          schemaVersion := schemaVersion
          campaignId := campaignId
          sequence := sequence
          terminal := "success"
          execution := execution.toJson } := by
  have version : decodeUnsigned u32Max (.ofNat schemaVersion) =
      .ok schemaVersion := by decide
  have number : decodeUnsigned u64Max (.ofNat sequence) = .ok sequence := by
    simp [decodeUnsigned, Json.ofNat, bounded]
  simp [IterationRecord.deserialize, iterationJson, recordFields, fieldValues,
    fieldValue, version, number, decodeString]

theorem IsIteration.accepted {sequence : Nat}
    {execution : RecordedExecutionResult} {content : Bytes}
    (isIteration : IsIteration campaignId sequence execution content)
    (same : execution.sequence = sequence) (positive : 1 ≤ sequence)
    (bounded : execution.Bounded) :
    AcceptedIteration setting campaignId
      (.utf8 (iterationFileName sequence), some content) sequence := by
  obtain ⟨timestamp, inTime, rfl⟩ := isIteration
  subst same
  have small := bounded.sequence_le
  have parsed : setting.parseRecord IterationRecord.deserialize
      (Json.pretty (iterationJson timestamp campaignId execution.sequence
        execution) ++ [LineLog.newline]) =
        .ok
          { schema := iterationSchema
            schemaVersion := schemaVersion
            campaignId := campaignId
            sequence := execution.sequence
            terminal := "success"
            execution := execution.toJson } := by
    rw [Setting.parseRecord, LineLog.newline,
      setting.serde.record.read_pretty
        (plain_iteration 123 campaignId small inTime bounded)]
    exact iterationRecord_iterationJson timestamp execution small
  exact ⟨rfl, ⟨positive, small⟩, _, _, rfl, parsed, rfl, rfl, rfl, rfl, rfl,
    execution_sequence bounded⟩

/-! ### The campaign record -/

/-- The campaign record that is written passes for the expected one. -/
theorem loads_written {disk : CampaignDir} {createdAt : Nat}
    {binary : BinaryIdentity} (valid : ValidCampaignId campaignId)
    (known : setting.binary = .ok binary) (inTime : createdAt ≤ u64Max)
    (sized : binary.sizeBytes ≤ u64Max)
    (written : fileContent "campaign.json" disk.top =
      some (Json.pretty (expectedCampaign campaignId createdAt binary).toJson
        ++ [LineLog.newline])) :
    loadExistingCampaignReadonly setting campaignId disk =
      .ok (expectedCampaign campaignId createdAt binary) := by
  have unsigned : ∀ limit value : Nat, value ≤ limit →
      decodeUnsigned limit (.ofNat value) = .ok value := by
    intro limit value bounded
    simp [decodeUnsigned, Json.ofNat, bounded]
  have plain : (expectedCampaign campaignId createdAt binary).toJson.plain
      nestingLimit = true := by
    have version : schemaVersion ≤ u64Max := by decide
    have rows : canonicalSourceRows ≤ u64Max := by decide
    have seed : canonicalSeed ≤ u64Max := by decide
    have chunk : canonicalChunkSize ≤ u64Max := by decide
    have cursor : canonicalCursorFetchSize ≤ u64Max := by decide
    have paging : canonicalPagingPageSize ≤ u64Max := by decide
    simp [CampaignRecord.toJson, expectedCampaign, nestingLimit, plain_object,
      Json.plainMembers, plain_string, plain_ofNat inTime, plain_ofNat sized,
      plain_ofNat version, plain_ofNat rows, plain_ofNat seed,
      plain_ofNat chunk, plain_ofNat cursor, plain_ofNat paging]
  have parsed : setting.parseRecord CampaignRecord.deserialize
      (Json.pretty (expectedCampaign campaignId createdAt binary).toJson ++
        [LineLog.newline]) =
        .ok (expectedCampaign campaignId createdAt binary) := by
    rw [Setting.parseRecord, LineLog.newline,
      setting.serde.record.read_pretty plain]
    have version := unsigned u32Max schemaVersion (by decide)
    have created := unsigned u64Max createdAt inTime
    have rows := unsigned u64Max canonicalSourceRows (by decide)
    have seed := unsigned u64Max canonicalSeed (by decide)
    have chunk := unsigned u32Max canonicalChunkSize (by decide)
    have cursor := unsigned u64Max canonicalCursorFetchSize (by decide)
    have paging := unsigned u64Max canonicalPagingPageSize (by decide)
    have size := unsigned u64Max binary.sizeBytes sized
    simp [CampaignRecord.deserialize, CampaignRecord.toJson, expectedCampaign,
      recordFields, fieldValues, fieldValue, decodeString,
      BinaryIdentity.deserialize, version, created, rows, seed, chunk, cursor,
      paging, size]
  have same : sameCampaignIdentity
      (expectedCampaign campaignId createdAt binary)
      (expectedCampaign campaignId createdAt binary) = true := by
    simp [sameCampaignIdentity]
  rw [loadExistingCampaignReadonly,
    planIteration_planOf valid (Nat.succ_pos 0)]
  simp only [written, parsed, known]
  exact if_pos same

/-! ### Temporary files -/

/-- A name that no record has. -/
def TemporaryNamed (entry : Entry) : Prop :=
  ∃ fileName processId timestamp,
    entry.1 = .utf8 (temporaryName fileName processId timestamp)

theorem decimal_getLast (value : Nat) :
    ∃ digit, (Text.decimal value).toList.getLast? = some digit ∧
      digit.isDigit = true := by
  have digits := Text.zeroPadded_isAsciiDigits 0 value
  rw [← Text.decimal_eq_zeroPadded] at digits
  have nonempty : (Text.decimal value).toList ≠ [] := by
    rw [Text.decimal_eq_zeroPadded]
    exact Text.zeroPadded_ne_nil 0 value
  exact ⟨_, List.getLast?_eq_some_getLast nonempty,
    List.all_eq_true.mp digits _ (List.getLast_mem nonempty)⟩

theorem temporaryName_no_suffix (fileName : String) (processId : UInt32)
    (timestamp : Nat) :
    Text.stripSuffix (temporaryName fileName processId timestamp) ".json" =
      none := by
  obtain ⟨digit, last, isDigit⟩ := decimal_getLast timestamp
  have nonempty : (Text.decimal timestamp).toList ≠ [] := by
    intro empty
    rw [empty] at last
    cases last
  apply Text.stripSuffix_eq_none
  · rw [temporaryName, String.toList_append,
      List.getLast?_append_of_ne_nil _ nonempty, last]
    rintro same
    injection same with isLetter
    rw [isLetter] at isDigit
    revert isDigit
    decide
  · decide

/-- A directory with a temporary file in it is not accepted. -/
theorem not_acceptedIteration_temporary {entry : Entry} {sequence : Nat}
    (temporary : TemporaryNamed entry) :
    ¬AcceptedIteration setting campaignId entry sequence := by
  obtain ⟨fileName, processId, timestamp, name⟩ := temporary
  intro accepted
  have stripped := Text.stripSuffix_append (Text.zeroPadded 6 sequence)
    ".json"
  have same := accepted.name
  rw [name] at same
  injection same with sameText
  rw [← iterationFileName, ← sameText, temporaryName_no_suffix] at stripped
  cases stripped

end Endurance
